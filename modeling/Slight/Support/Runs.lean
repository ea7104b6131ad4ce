import Slight.Support.System

/-!
# Slight.Support.Runs

Runs of an executable system.

* `runs_rel` — two runs side by side: if every step from related states by related labels
  leads to related states, or is refused in both, then so does a whole run;
* `runs_flag` — a flag that nothing takes down is set if and only if some step set it;
* `runs_potential` — if every counted step uses up some of a potential that no step adds to,
  then a run has no more of them than there is of it.
-/

namespace Support

universe u v

namespace System

variable {σ : Type u} {α : Type v} {next : σ → α → Option σ} {I : σ → σ → Prop}
  {R : α → α → Prop}

/-- **Unwinding**: related labels keep related states related. -/
theorem runs_rel
    (hstep : ∀ s s' a a', I s s' → R a a' → Option.Rel I (next s a) (next s' a'))
    {as as' : List α} (hlabels : List.Forall₂ R as as') {s s' : σ} (hs : I s s') :
    Option.Rel I (runs next s as) (runs next s' as') := by
  induction hlabels generalizing s s' with
  | nil => exact .some hs
  | @cons a a' _ _ hlabel _ ih =>
      have hrel := hstep s s' a a' hs hlabel
      rw [runs, runs]
      generalize next s a = x at hrel ⊢
      generalize next s' a' = y at hrel ⊢
      cases hrel with
      | some ht => exact ih ht
      | none => exact .none

/-- What related states have in common is the same at the end of both. -/
theorem map_eq_of_rel {β : Type*} {view : σ → β} (hview : ∀ s s', I s s' → view s = view s')
    {x y : Option σ} (h : Option.Rel I x y) : x.map view = y.map view := by
  cases h with
  | some hs => exact congrArg some (hview _ _ hs)
  | none => rfl

/-- **Flag**: a flag that nothing takes down is down at the end of a run if and only if it was
at the beginning and no step set it. -/
theorem runs_flag {J : σ → Prop} {flag : σ → Bool} {sets : σ → α → Bool}
    (hstep : ∀ s a t, J s → next s a = some t → J t ∧ flag t = (flag s || sets s a))
    {s t : σ} {as : List α} (hs : J s) (h : runs next s as = some t) :
    J t ∧ (flag t = false ↔
      flag s = false ∧ runsUnder next (fun s a => sets s a = false) s as) := by
  induction as generalizing s with
  | nil =>
      rw [runs, Option.some.injEq] at h
      rw [← h]
      exact ⟨hs, (and_iff_left trivial).symm⟩
  | cons a as ih =>
      obtain ⟨u, hu, hrest⟩ := Option.bind_eq_some_iff.mp h
      obtain ⟨hstay, hflag⟩ := hstep s a u hs hu
      obtain ⟨ht, hiff⟩ := ih hstay hrest
      refine ⟨ht, ?_⟩
      rw [hiff, hflag, Bool.or_eq_false_iff, and_assoc, runsUnder, hu]
      simp only [Option.mem_some_iff, forall_eq']

/-- **Potential**: what the counted steps use up bounds their number. -/
theorem runs_potential {J : σ → Prop} (potential : σ → Nat) (counted : α → Bool)
    (hstep : ∀ s a t, J s → next s a = some t →
      J t ∧ potential t + (counted a).toNat ≤ potential s)
    {s t : σ} {as : List α} (hs : J s) (h : runs next s as = some t) :
    J t ∧ potential t + as.countP counted ≤ potential s := by
  induction as generalizing s with
  | nil =>
      rw [runs, Option.some.injEq] at h
      rw [← h]
      exact ⟨hs, le_rfl⟩
  | cons a as ih =>
      obtain ⟨u, hu, hrest⟩ := Option.bind_eq_some_iff.mp h
      obtain ⟨hstay, hused⟩ := hstep s a u hs hu
      obtain ⟨ht, hle⟩ := ih hstay hrest
      refine ⟨ht, ?_⟩
      have hcount : (a :: as).countP counted = as.countP counted + (counted a).toNat := by
        rw [List.countP_cons]
        cases counted a <;> rfl
      omega

end System

end Support
