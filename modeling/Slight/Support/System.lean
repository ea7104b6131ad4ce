import Mathlib

/-!
# Slight.Support.System

Labelled transition systems and their invariants.  A system is a set of
initial states and a labelled step relation; `ReachUnder ok` collects the
states reached by runs all of whose steps satisfy the guard `ok`, so that
"in every run whose steps meet a condition" is a statement about one
predicate.  `Reachable` is the unguarded case.

* `invariant_of_step` — a property that holds initially and that guarded
  steps keep holds of every state reached under the guard;
* `reachable_of_runs` — an executable system reaches what its runs compute.
-/

namespace Support

universe u v

/-- A labelled transition system. -/
structure System (σ : Type u) (α : Type v) where
  init : σ → Prop
  step : σ → α → σ → Prop

namespace System

variable {σ : Type u} {α : Type v} (S : System σ α)

/-- States reached by a run whose every step meets the guard `ok`, judged in
the state before the step. -/
inductive ReachUnder (ok : σ → α → Prop) : σ → Prop
  | init {s : σ} : S.init s → ReachUnder ok s
  | step {s t : σ} {a : α} : ReachUnder ok s → ok s a → S.step s a t → ReachUnder ok t

/-- States reached by any run. -/
def Reachable : σ → Prop := S.ReachUnder fun _ _ => True

variable {S}

/-- **Invariant rule**: an initial property kept by every guarded step holds in
every state reached under the guard. -/
theorem invariant_of_step {ok : σ → α → Prop} {I : σ → Prop} (hinit : ∀ s, S.init s → I s)
    (hstep : ∀ s a t, I s → ok s a → S.step s a t → I t) {s : σ} (h : S.ReachUnder ok s) :
    I s := by
  induction h with
  | init hi => exact hinit _ hi
  | step _ hok hst ih => exact hstep _ _ _ ih hok hst

/-- Weakening the guard reaches more states. -/
theorem ReachUnder.mono {ok ok' : σ → α → Prop} (hok : ∀ s a, ok s a → ok' s a) {s : σ}
    (h : S.ReachUnder ok s) : S.ReachUnder ok' s := by
  induction h with
  | init hi => exact .init hi
  | step _ ho hst ih => exact .step ih (hok _ _ ho) hst

/-- A state reached under a guard is reachable. -/
theorem ReachUnder.reachable {ok : σ → α → Prop} {s : σ} (h : S.ReachUnder ok s) :
    S.Reachable s :=
  h.mono fun _ _ _ => trivial

/-! ## executable systems -/

/-- The system of a partial step function: all nondeterminism is in the label. -/
def ofNext (init : σ → Prop) (next : σ → α → Option σ) : System σ α where
  init := init
  step s a t := next s a = some t

/-- Run a list of labels, failing at the first one that is not enabled. -/
def runs (next : σ → α → Option σ) : σ → List α → Option σ
  | s, [] => some s
  | s, a :: as => (next s a).bind fun t => runs next t as

theorem runs_cons {next : σ → α → Option σ} {s t : σ} {a : α} (h : next s a = some t)
    (as : List α) : runs next s (a :: as) = runs next t as := by
  rw [runs, h, Option.bind_some]

/-- Every label of the run meets the guard in the state it is taken from. -/
def runsUnder (next : σ → α → Option σ) (ok : σ → α → Prop) : σ → List α → Prop
  | _, [] => True
  | s, a :: as => ok s a ∧ ∀ t ∈ next s a, runsUnder next ok t as

instance decidableRunsUnder (next : σ → α → Option σ) (ok : σ → α → Prop)
    [∀ s a, Decidable (ok s a)] : ∀ s as, Decidable (runsUnder next ok s as)
  | _, [] => .isTrue trivial
  | s, a :: as =>
      have := fun t => decidableRunsUnder next ok t as
      inferInstanceAs (Decidable (ok s a ∧ ∀ t ∈ next s a, runsUnder next ok t as))

private theorem reachUnder_of_runs_aux {init : σ → Prop} {next : σ → α → Option σ}
    {ok : σ → α → Prop} {s t : σ} {as : List α} (hs : (ofNext init next).ReachUnder ok s)
    (hok : runsUnder next ok s as) (h : runs next s as = some t) :
    (ofNext init next).ReachUnder ok t := by
  induction as generalizing s with
  | nil =>
      simp only [runs, Option.some.injEq] at h
      exact h ▸ hs
  | cons a as ih =>
      simp only [runs, Option.bind_eq_some_iff] at h
      obtain ⟨u, hu, hrest⟩ := h
      exact ih (.step hs hok.1 hu) (hok.2 u hu) hrest

/-- An executable system reaches, under a guard, the end of every run whose
labels meet the guard. -/
theorem reachUnder_of_runs {init : σ → Prop} {next : σ → α → Option σ} {ok : σ → α → Prop}
    {s t : σ} (as : List α) (hs : init s) (hok : runsUnder next ok s as)
    (h : runs next s as = some t) : (ofNext init next).ReachUnder ok t :=
  reachUnder_of_runs_aux (.init hs) hok h

/-- A run whose labels meet the guard in every state qualifies. -/
theorem runsUnder_of_forall {next : σ → α → Option σ} {ok : σ → α → Prop} {as : List α}
    (h : ∀ a ∈ as, ∀ s, ok s a) (s : σ) : runsUnder next ok s as := by
  induction as generalizing s with
  | nil => trivial
  | cons a as ih =>
      exact ⟨h a List.mem_cons_self s,
        fun t _ => ih (fun b hb => h b (List.mem_cons_of_mem a hb)) t⟩

/-- An executable system reaches the end of every run. -/
theorem reachable_of_runs {init : σ → Prop} {next : σ → α → Option σ} {s t : σ}
    (as : List α) (hs : init s) (h : runs next s as = some t) :
    (ofNext init next).Reachable t :=
  reachUnder_of_runs as hs (runsUnder_of_forall (fun _ _ _ => trivial) s) h

end System

end Support
