import Slight.Support.Automaton

/-!
# Slight.Support.Delivery

Delivery in order.  A receiver is given numbered items; at some points it is told that
the next item may be a later one than the next (`skip`), or that it starts over
(`restart`).

* `sorted_since` — since the last restart the numbers increase;
* `since_sublist` — so items that all come from a numbered log are a sublist of it;
* `consecutive` — without a sign in between, the numbers follow one another.
-/

namespace Support

universe u

/-- What a receiver is given. -/
inductive Sign (α : Type u) where
  | item (a : α)
  | skip
  | restart

namespace Delivery

variable {α : Type u}

/-- Where a receiver stands: at the number of the last item, and whether the next item
has the next number. -/
structure Position where
  last : Nat := 0
  tight : Bool := false
  deriving DecidableEq

/-- The next item comes after the last one, right after it if nothing was skipped. -/
def Position.Admits (position : Position) (n : Nat) : Prop :=
  position.last < n ∧ (position.tight = true → n = position.last + 1)

variable (number : α → Nat)

def allows (position : Position) : Sign α → Prop
  | .item a => position.Admits (number a)
  | _ => True

def next (position : Position) : Sign α → Position
  | .item a => { last := number a, tight := true }
  | .skip => { position with tight := false }
  | .restart => {}

/-- The automaton of in-order delivery. -/
def inOrder : Automaton Position (Sign α) where
  allows := allows number
  next := next number

/-- The items since the last restart, after some that came before. -/
def since : List α → List (Sign α) → List α
  | items, [] => items
  | items, .item a :: trace => since (items ++ [a]) trace
  | items, .skip :: trace => since items trace
  | _, .restart :: trace => since [] trace

variable {number}

/-- Since the last restart there are items before the trace, or of the trace. -/
theorem mem_since {items : List α} {trace : List (Sign α)} {a : α} (h : a ∈ since items trace) :
    a ∈ items ∨ .item a ∈ trace := by
  induction trace generalizing items with
  | nil => exact .inl h
  | cons sign trace ih =>
      cases sign with
      | item b =>
          rcases ih h with hmem | hmem
          · rcases List.mem_append.mp hmem with hmem | hmem
            · exact .inl hmem
            · rw [List.mem_singleton.mp hmem]
              exact .inr List.mem_cons_self
          · exact .inr (List.mem_cons_of_mem _ hmem)
      | skip => exact (ih h).imp_right (List.mem_cons_of_mem _)
      | restart =>
          rcases ih h with hmem | hmem
          · cases hmem
          · exact .inr (List.mem_cons_of_mem _ hmem)

/-- **The numbers increase** since the last restart. -/
theorem sorted_since {position : Position} {items : List α} {trace : List (Sign α)}
    (haccepts : (inOrder number).Accepts position trace)
    (hsorted : items.Pairwise (number · < number ·))
    (hlast : ∀ a ∈ items, number a ≤ position.last) :
    (since items trace).Pairwise (number · < number ·) := by
  induction trace generalizing position items with
  | nil => exact hsorted
  | cons sign trace ih =>
      obtain ⟨hallows, hrest⟩ := haccepts
      cases sign with
      | item b =>
          have hadmits : position.Admits (number b) := hallows
          refine ih hrest ?_ fun a hmem => ?_
          · rw [List.pairwise_append]
            refine ⟨hsorted, List.pairwise_singleton _ _, fun a hmem c hc => ?_⟩
            rw [List.mem_singleton.mp hc]
            exact Nat.lt_of_le_of_lt (hlast a hmem) hadmits.1
          · show number a ≤ number b
            rcases List.mem_append.mp hmem with hmem | hmem
            · exact Nat.le_of_lt (Nat.lt_of_le_of_lt (hlast a hmem) hadmits.1)
            · rw [List.mem_singleton.mp hmem]
      | skip => exact ih hrest hsorted hlast
      | restart => exact ih hrest .nil (by simp)

/-- Items of a numbered log in the order of their numbers are a sublist of it. -/
theorem sublist_of_sorted {items log : List α} (hitems : items.Pairwise (number · < number ·))
    (hlog : log.Pairwise (number · < number ·)) (hmem : ∀ a ∈ items, a ∈ log) :
    items.Sublist log := by
  have : Std.Irrefl (fun a b : α => number a < number b) := ⟨fun _ => Nat.lt_irrefl _⟩
  have : Std.Antisymm (fun a b : α => number a < number b) :=
    ⟨fun _ _ h h' => absurd (Nat.lt_trans h h') (Nat.lt_irrefl _)⟩
  exact List.sublist_of_subperm_of_pairwise
    (List.subperm_of_subset (List.Pairwise.nodup hitems) hmem) hitems hlog

/-- **What was delivered since the last restart** is a sublist of the log it comes from. -/
theorem since_sublist {trace : List (Sign α)} {log : List α}
    (haccepts : (inOrder number).Accepts {} trace)
    (hmem : ∀ a, .item a ∈ trace → a ∈ log) (hlog : log.Pairwise (number · < number ·)) :
    (since [] trace).Sublist log := by
  refine sublist_of_sorted (sorted_since haccepts .nil (by simp)) hlog fun a h => ?_
  rcases mem_since h with h | h
  · cases h
  · exact hmem a h

/-- **Without a sign in between** the items are numbered one after the other. -/
theorem consecutive {position : Position} {front back : List (Sign α)} {items : List α}
    (haccepts : (inOrder number).Accepts position (front ++ items.map .item ++ back)) :
    ∃ n, items.map number = List.range' n items.length := by
  have hitems := (Automaton.accepts_append.mp (Automaton.accepts_append.mp haccepts).1).2
  cases items with
  | nil => exact ⟨0, rfl⟩
  | cons a items =>
      refine ⟨number a, ?_⟩
      have htight : ∀ (items : List α) (n : Nat),
          (inOrder number).Accepts { last := n, tight := true } (items.map .item) →
            items.map number = List.range' (n + 1) items.length := by
        intro items
        induction items with
        | nil => exact fun _ _ => rfl
        | cons b items ih =>
            intro n h
            have hadmits : ({ last := n, tight := true } : Position).Admits (number b) := h.1
            have hb : number b = n + 1 := hadmits.2 rfl
            have hrest := ih (number b) h.2
            rw [List.map_cons, hrest, hb, List.length_cons, List.range'_succ]
      rw [List.map_cons, htight items (number a) hitems.2, List.length_cons, List.range'_succ]

end Delivery

end Support
