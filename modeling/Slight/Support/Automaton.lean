import Slight.Support.System

/-!
# Slight.Support.Automaton

Automata as specifications of a trace: what may come next, and where it leads.  A trace
is accepted if each of its labels is allowed where it stands.

* `accepts_append`, `accepts_concat` — how accepted traces compose;
* `tracks_of_reachable` — a system whose steps log nothing, or labels that the automaton
  allows, logs accepted traces only, and stays where the automaton is.
-/

namespace Support

universe u v w x

/-- A state is any value; `allows` says which labels may come, `next` where they lead. -/
structure Automaton (σ : Type u) (α : Type v) where
  allows : σ → α → Prop
  next : σ → α → σ

namespace Automaton

variable {σ : Type u} {α : Type v} (A : Automaton σ α)

/-- Where a trace leads. -/
def after (s : σ) (trace : List α) : σ := trace.foldl A.next s

/-- Each label of the trace is allowed where it stands. -/
def Accepts : σ → List α → Prop
  | _, [] => True
  | s, a :: trace => A.allows s a ∧ Accepts (A.next s a) trace

variable {A}

@[simp] theorem after_append (s : σ) (front back : List α) :
    A.after s (front ++ back) = A.after (A.after s front) back :=
  List.foldl_append

theorem accepts_append {s : σ} {front back : List α} :
    A.Accepts s (front ++ back) ↔ A.Accepts s front ∧ A.Accepts (A.after s front) back := by
  induction front generalizing s with
  | nil => exact ⟨fun h => ⟨trivial, h⟩, And.right⟩
  | cons a front ih =>
      rw [List.cons_append, Accepts, Accepts, ih, and_assoc]
      rfl

theorem accepts_singleton {s : σ} {a : α} : A.Accepts s [a] ↔ A.allows s a :=
  and_iff_left trivial

theorem accepts_concat {s : σ} {trace : List α} {a : α} :
    A.Accepts s (trace ++ [a]) ↔ A.Accepts s trace ∧ A.allows (A.after s trace) a := by
  rw [accepts_append, accepts_singleton]

/-! ## systems that log -/

/-- The trace is accepted, and leads to `t`. -/
structure Tracks (A : Automaton σ α) (s : σ) (trace : List α) (t : σ) : Prop where
  accepts : A.Accepts s trace
  after : A.after s trace = t

theorem Tracks.nil (s : σ) : A.Tracks s [] s := ⟨trivial, rfl⟩

theorem Tracks.trans {s t t' : σ} {front back : List α} (h : A.Tracks s front t)
    (h' : A.Tracks t back t') : A.Tracks s (front ++ back) t' where
  accepts := accepts_append.mpr ⟨h.accepts, by rw [h.after]; exact h'.accepts⟩
  after := by rw [after_append, h.after, h'.after]

theorem tracks_singleton {s t : σ} {a : α} :
    A.Tracks s [a] t ↔ A.allows s a ∧ A.next s a = t :=
  ⟨fun h => ⟨accepts_singleton.mp h.accepts, h.after⟩,
    fun h => ⟨accepts_singleton.mpr h.1, h.2⟩⟩

/-- **Trace refinement**: a system in which each step adds to the log what the automaton
accepts from the state the system stands for, and ends where that leads. -/
theorem tracks_of_reachable {C : Type w} {β : Type x} {S : System C β} {start : σ}
    (log : C → List α) (stands : C → σ) (hinit : ∀ c, S.init c → log c = [] ∧ stands c = start)
    (hstep : ∀ c b c', S.Reachable c → S.step c b c' →
      ∃ more, log c' = log c ++ more ∧ A.Tracks (stands c) more (stands c'))
    {c : C} (h : S.Reachable c) : A.Tracks start (log c) (stands c) := by
  induction h with
  | init hi =>
      obtain ⟨hlog, hstands⟩ := hinit _ hi
      rw [hlog, hstands]
      exact .nil start
  | step hreach _ hst ih =>
      obtain ⟨more, hlog, htracks⟩ := hstep _ _ _ hreach hst
      rw [hlog]
      exact ih.trans htracks

end Automaton

end Support
