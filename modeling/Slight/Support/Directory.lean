import Mathlib

/-!
# Slight.Support.Directory

A directory of regular files.  A name stands for a file, and a file keeps its bytes when
its name changes: what is written through an open file goes wherever its name has gone.
-/

namespace Support

/-- Names and the files they stand for.  No two names stand for one file, and `fresh` is
a file that no name stands for yet. -/
structure Directory (N : Type) where
  file : N → Option Nat
  bytes : Nat → List UInt8
  fresh : Nat
  file_lt : ∀ name id, file name = some id → id < fresh
  file_inj : ∀ name name' id, file name = some id → file name' = some id → name = name'

namespace Directory

variable {N : Type}

def empty : Directory N where
  file _ := none
  bytes _ := []
  fresh := 0
  file_lt name id h := by contradiction
  file_inj name name' id h _ := by contradiction

/-- What a reader of the name finds. -/
def content (d : Directory N) (name : N) : Option (List UInt8) := (d.file name).map d.bytes

@[simp] theorem content_empty (name : N) : (empty : Directory N).content name = none := rfl

theorem content_of_file {d : Directory N} {name : N} {id : Nat} (h : d.file name = some id) :
    d.content name = some (d.bytes id) := by
  rw [content, h]
  rfl

theorem content_eq_none {d : Directory N} {name : N} :
    d.content name = none ↔ d.file name = none := by
  rw [content, Option.map_eq_none_iff]

/-! ## operations -/

variable [DecidableEq N]

/-- The directory without a name. -/
def without (name : N) (d : Directory N) : Directory N where
  file name' := if name' = name then none else d.file name'
  bytes := d.bytes
  fresh := d.fresh
  file_lt name' id h := by
    split at h
    · contradiction
    · exact d.file_lt name' id h
  file_inj name₁ name₂ id h₁ h₂ := by
    split at h₁ <;> split at h₂ <;> try contradiction
    exact d.file_inj name₁ name₂ id h₁ h₂

/-- The file of `source` under the name `destination`, whose own file is gone. -/
def moved (source destination : N) (d : Directory N) : Directory N where
  file name :=
    if name = destination then d.file source
    else if name = source then none
    else d.file name
  bytes := d.bytes
  fresh := d.fresh
  file_lt name id h := by
    split at h
    · exact d.file_lt source id h
    · split at h
      · contradiction
      · exact d.file_lt name id h
  file_inj name₁ name₂ id h₁ h₂ := by
    have hsource : ∀ name, name ≠ source → d.file name = some id → d.file source ≠ some id :=
      fun name hne h h' => hne (d.file_inj name source id h h')
    split at h₁ <;> split at h₂
    · next h h' => rw [h, h']
    · split at h₂
      · contradiction
      · next hne => exact absurd h₁ (hsource name₂ hne h₂)
    · split at h₁
      · contradiction
      · next hne => exact absurd h₂ (hsource name₁ hne h₁)
    · split at h₁ <;> split at h₂ <;> try contradiction
      exact d.file_inj name₁ name₂ id h₁ h₂

/-- The directory with a new, empty file under the name. -/
def created (name : N) (d : Directory N) : Directory N where
  file name' := if name' = name then some d.fresh else d.file name'
  bytes id := if id = d.fresh then [] else d.bytes id
  fresh := d.fresh + 1
  file_lt name' id h := by
    split at h
    · rw [← Option.some.inj h]
      omega
    · have hlt := d.file_lt name' id h
      omega
  file_inj name₁ name₂ id h₁ h₂ := by
    have hnew : ∀ name', d.file name' = some id → id ≠ d.fresh := by
      intro name' h heq
      have hlt := d.file_lt name' id h
      omega
    split at h₁ <;> split at h₂
    · next h h' => rw [h, h']
    · exact absurd (Option.some.inj h₁).symm (hnew name₂ h₂)
    · exact absurd (Option.some.inj h₂).symm (hnew name₁ h₁)
    · exact d.file_inj name₁ name₂ id h₁ h₂

/-- Some bytes at the end of a file. -/
def appended (id : Nat) (text : List UInt8) (d : Directory N) : Directory N where
  file := d.file
  bytes id' := if id' = id then d.bytes id ++ text else d.bytes id'
  fresh := d.fresh
  file_lt := d.file_lt
  file_inj := d.file_inj

/-- Opening a name for appending, creating its file if it has none. -/
def opened (name : N) (d : Directory N) : Nat × Directory N :=
  match d.file name with
  | some id => (id, d)
  | none => (d.fresh, d.created name)

/-! ## what a reader finds afterwards -/

variable {d : Directory N}

theorem content_without (name name' : N) :
    (d.without name).content name' = if name' = name then none else d.content name' := by
  unfold content without
  dsimp only
  split <;> rfl

theorem content_moved (source destination name : N) :
    (d.moved source destination).content name =
      if name = destination then d.content source
      else if name = source then none
      else d.content name := by
  unfold content moved
  dsimp only
  split
  · rfl
  · split <;> rfl

theorem content_created (name name' : N) :
    (d.created name).content name' = if name' = name then some [] else d.content name' := by
  unfold content created
  dsimp only
  by_cases hname : name' = name
  · rw [if_pos hname, if_pos hname, Option.map_some, if_pos rfl]
  · rw [if_neg hname, if_neg hname]
    cases hfile : d.file name' with
    | none => rfl
    | some id =>
        have hlt := d.file_lt name' id hfile
        rw [Option.map_some, Option.map_some, if_neg (by omega)]

theorem file_opened (name : N) : (d.opened name).2.file name = some (d.opened name).1 := by
  unfold opened
  split
  · next id h => exact h
  · exact if_pos rfl

theorem content_opened (name name' : N) :
    (d.opened name).2.content name' =
      if name' = name then some ((d.content name).getD []) else d.content name' := by
  unfold opened
  split
  · next id h =>
      have hcontent := content_of_file h
      by_cases hname : name' = name
      · rw [if_pos hname, hname, hcontent]
        rfl
      · rw [if_neg hname]
  · next h => rw [content_created, content_eq_none.mpr h, Option.getD_none]

/-- Only the name of the file has more bytes. -/
theorem content_appended {name : N} {id : Nat} (h : d.file name = some id) (text : List UInt8)
    (name' : N) :
    (d.appended id text).content name' =
      if name' = name then some (d.bytes id ++ text) else d.content name' := by
  by_cases hname : name' = name
  · have hfile : (d.appended id text).file name' = some id := by rw [hname]; exact h
    rw [if_pos hname, content_of_file hfile, appended]
    exact congrArg some (if_pos rfl)
  · rw [if_neg hname]
    unfold content appended
    dsimp only
    cases hfile : d.file name' with
    | none => rfl
    | some id' =>
        have hne : id' ≠ id := fun heq => hname (d.file_inj name' name id (heq ▸ hfile) h)
        rw [Option.map_some, Option.map_some, if_neg hne]

/-! ## the names in use -/

/-- Every name that stands for a file is one of `allowed`. -/
def Confined (allowed : N → Prop) (d : Directory N) : Prop :=
  ∀ name, d.content name ≠ none → allowed name

variable {allowed : N → Prop}

omit [DecidableEq N] in
theorem confined_empty : Confined allowed (empty : Directory N) :=
  fun _ h => absurd rfl h

theorem Confined.without (h : d.Confined allowed) (name : N) :
    (d.without name).Confined allowed := by
  intro name' hused
  rw [content_without] at hused
  split at hused
  · contradiction
  · exact h name' hused

theorem Confined.moved (h : d.Confined allowed) (source : N) {destination : N}
    (hdestination : allowed destination) : (d.moved source destination).Confined allowed := by
  intro name hused
  rw [content_moved] at hused
  split at hused
  · next heq =>
      rw [heq]
      exact hdestination
  · split at hused
    · contradiction
    · exact h name hused

theorem Confined.opened (h : d.Confined allowed) {name : N} (hname : allowed name) :
    (d.opened name).2.Confined allowed := by
  intro name' hused
  rw [content_opened] at hused
  split at hused
  · next heq =>
      rw [heq]
      exact hname
  · exact h name' hused

omit [DecidableEq N] in
theorem Confined.appended (h : d.Confined allowed) (id : Nat) (text : List UInt8) :
    (d.appended id text).Confined allowed := by
  intro name hused
  refine h name fun hnone => hused ?_
  rw [content_eq_none] at hnone ⊢
  exact hnone

end Directory

end Support
