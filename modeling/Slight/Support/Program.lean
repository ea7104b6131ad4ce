import Mathlib

/-!
# Slight.Support.Program

Programs over a state that may fail, where a failure keeps the state reached so
far.  `Performs R m` says that `m`, started in any state, only takes steps of
the relation `R`: whatever such steps preserve, the program preserves.
-/

namespace Support

/-- A program over states `σ` that may fail with `ε`. -/
abbrev Program (σ ε : Type) := ExceptT ε (StateM σ)

namespace Program

variable {σ ε α β : Type}

/-- What the program returns, and the state it ends in. -/
def exec (m : Program σ ε α) (s : σ) : Except ε α × σ := m.run.run s

def final (m : Program σ ε α) (s : σ) : σ := (m.exec s).2

def result (m : Program σ ε α) (s : σ) : Except ε α := (m.exec s).1

/-- The program's outcome as a value; it never fails. -/
def attempt (m : Program σ ε α) : Program σ ε (Except ε α) :=
  ExceptT.mk do
    let outcome ← m.run
    pure (.ok outcome)

/-! ## running -/

@[simp] theorem exec_pure (a : α) (s : σ) : (pure a : Program σ ε α).exec s = (.ok a, s) := rfl

@[simp] theorem exec_throw (e : ε) (s : σ) :
    (throw e : Program σ ε α).exec s = (.error e, s) := rfl

@[simp] theorem exec_get (s : σ) : (get : Program σ ε σ).exec s = (.ok s, s) := rfl

@[simp] theorem exec_set (s t : σ) : (set t : Program σ ε PUnit).exec s = (.ok ⟨⟩, t) := rfl

@[simp] theorem exec_modify (f : σ → σ) (s : σ) :
    (modify f : Program σ ε PUnit).exec s = (.ok ⟨⟩, f s) := rfl

@[simp] theorem exec_attempt (m : Program σ ε α) (s : σ) :
    m.attempt.exec s = (.ok (m.result s), m.final s) := rfl

theorem exec_bind (m : Program σ ε α) (f : α → Program σ ε β) (s : σ) :
    (m >>= f).exec s =
      match m.exec s with
      | (.ok a, t) => (f a).exec t
      | (.error e, t) => (.error e, t) := by
  show ((ExceptT.bindCont f (m.exec s).1).run (m.exec s).2).run = _
  match m.exec s with
  | (.ok a, t) => rfl
  | (.error e, t) => rfl

theorem final_bind (m : Program σ ε α) (f : α → Program σ ε β) (s : σ) :
    (m >>= f).final s =
      match m.exec s with
      | (.ok a, t) => (f a).final t
      | (.error _, t) => t := by
  unfold final
  rw [exec_bind]
  split <;> rfl

/-- What a program returns does not change what it does. -/
theorem final_bind_pure (m : Program σ ε α) (f : α → β) (s : σ) :
    (m >>= fun a => pure (f a)).final s = m.final s := by
  rw [final_bind, final]
  split
  · next h => rw [h]; rfl
  · next h => rw [h]

theorem final_discard (m : Program σ ε α) (s : σ) :
    (do let _ ← m : Program σ ε PUnit).final s = m.final s :=
  final_bind_pure m _ s

/-! ## performing steps -/

/-- Started in any state, the program only takes steps of `R`. -/
def Performs (R : σ → σ → Prop) (m : Program σ ε α) : Prop :=
  ∀ s, Relation.ReflTransGen R s (m.final s)

section

variable {R : σ → σ → Prop} {m : Program σ ε α}

/-- What the steps preserve, the program preserves. -/
theorem Performs.preserves (hm : m.Performs R) {I : σ → Prop}
    (hstep : ∀ s t, R s t → I s → I t) {s : σ} (hs : I s) : I (m.final s) := by
  have hkeeps : ∀ t, Relation.ReflTransGen R s t → I t := by
    intro t hrun
    induction hrun with
    | refl => exact hs
    | tail _ hlast ih => exact hstep _ _ hlast ih
  exact hkeeps _ (hm s)

theorem Performs.mono {R' : σ → σ → Prop} (hm : m.Performs R) (h : ∀ s t, R s t → R' s t) :
    m.Performs R' :=
  fun s => Relation.ReflTransGen.mono h _ _ (hm s)

/-- Every step of `R` is a chain of steps of `R'`. -/
theorem Performs.refine {R' : σ → σ → Prop} (hm : m.Performs R)
    (h : ∀ s t, R s t → Relation.ReflTransGen R' s t) : m.Performs R' := by
  have hchain : ∀ s t, Relation.ReflTransGen R s t → Relation.ReflTransGen R' s t := by
    intro s t hrun
    induction hrun with
    | refl => exact .refl
    | tail _ hlast ih => exact ih.trans (h _ _ hlast)
  exact fun s => hchain s _ (hm s)

theorem performs_discard (hm : m.Performs R) : (do let _ ← m : Program σ ε PUnit).Performs R := by
  intro s
  rw [final_discard]
  exact hm s

theorem performs_of_step (h : ∀ s, R s (m.final s)) : m.Performs R :=
  fun s => .single (h s)

theorem performs_of_final_eq (h : ∀ s, m.final s = s) : m.Performs R := fun s => by
  rw [h s]

theorem performs_pure (a : α) : (pure a : Program σ ε α).Performs R := fun _ => .refl

theorem performs_throw (e : ε) : (throw e : Program σ ε α).Performs R := fun _ => .refl

theorem performs_get : (get : Program σ ε σ).Performs R := fun _ => .refl

/-- A bind, where what is returned matters. -/
theorem performs_bind_exec {f : α → Program σ ε β} (hm : m.Performs R)
    (hf : ∀ s a t, m.exec s = (.ok a, t) → (f a).Performs R) : (m >>= f).Performs R := by
  intro s
  have hfirst : Relation.ReflTransGen R s (m.exec s).2 := hm s
  rw [final_bind]
  split
  · next a t h =>
      rw [h] at hfirst
      exact hfirst.trans (hf s a t h t)
  · next e t h =>
      rw [h] at hfirst
      exact hfirst

theorem performs_bind {f : α → Program σ ε β} (hm : m.Performs R) (hf : ∀ a, (f a).Performs R) :
    (m >>= f).Performs R :=
  performs_bind_exec hm fun _ a _ _ => hf a

theorem performs_attempt (hm : m.Performs R) : m.attempt.Performs R := hm

/-- A step for each item of a list. -/
theorem performs_mapM {xs : List α} {f : α → Program σ ε β} (hf : ∀ a, (f a).Performs R) :
    (xs.mapM f).Performs R := by
  induction xs with
  | nil => exact performs_pure _
  | cons x xs ih =>
      rw [List.mapM_cons]
      exact performs_bind (hf x) fun _ => performs_bind ih fun _ => performs_pure _

end

/-! ## programs that do not fail -/

/-- Started where `I` holds, the program returns a value and leaves `I` true. -/
def Completes (I : σ → Prop) (m : Program σ ε α) : Prop :=
  ∀ s, I s → ∃ a t, m.exec s = (.ok a, t) ∧ I t

section

variable {I : σ → Prop} {m : Program σ ε α}

theorem Completes.result_ne_error (hm : m.Completes I) {s : σ} (hs : I s) (e : ε) :
    m.result s ≠ .error e := by
  obtain ⟨a, t, hexec, -⟩ := hm s hs
  rw [result, hexec]
  exact nofun

theorem completes_pure (a : α) : (pure a : Program σ ε α).Completes I :=
  fun s hs => ⟨a, s, rfl, hs⟩

theorem completes_get : (get : Program σ ε σ).Completes I := fun s hs => ⟨s, s, rfl, hs⟩

theorem completes_bind {f : α → Program σ ε β} (hm : m.Completes I)
    (hf : ∀ a, (f a).Completes I) : (m >>= f).Completes I := by
  intro s hs
  obtain ⟨a, t, hexec, ht⟩ := hm s hs
  obtain ⟨b, u, hexec', hu⟩ := hf a t ht
  refine ⟨b, u, ?_, hu⟩
  rw [exec_bind, hexec]
  exact hexec'

theorem completes_discard (hm : m.Completes I) :
    (do let _ ← m : Program σ ε PUnit).Completes I :=
  completes_bind hm fun _ => completes_pure _

/-- An attempt only has to leave `I` true. -/
theorem completes_attempt (hm : ∀ s, I s → I (m.final s)) : m.attempt.Completes I :=
  fun s hs => ⟨m.result s, m.final s, rfl, hm s hs⟩

theorem completes_mapM {xs : List α} {f : α → Program σ ε β} (hf : ∀ a, (f a).Completes I) :
    (xs.mapM f).Completes I := by
  induction xs with
  | nil => exact completes_pure _
  | cons x xs ih =>
      rw [List.mapM_cons]
      exact completes_bind (hf x) fun _ => completes_bind ih fun _ => completes_pure _

/-- A program that fails although what follows its first part would not fail, fails in
its first part. -/
theorem failed_bind {f : α → Program σ ε β} {s : σ} {e : ε}
    (hf : ∀ a t, m.exec s = (.ok a, t) → ∃ b, (f a).result t = .ok b)
    (h : (m >>= f).result s = .error e) :
    m.result s = .error e ∧ (m >>= f).final s = m.final s := by
  rw [result, exec_bind] at h
  rw [result, final, final, exec_bind]
  match hexec : m.exec s with
  | (.ok a, t) =>
      rw [hexec] at h
      obtain ⟨b, hb⟩ := hf a t hexec
      rw [result] at hb
      exact absurd (h.symm.trans hb) (by simp)
  | (.error error, t) =>
      rw [hexec] at h
      exact ⟨congrArg _ (Except.error.inj (h : (.error error : Except ε β) = .error e)), rfl⟩

/-- The same, where what follows never fails. -/
theorem failed_bind_of_completes {f : α → Program σ ε β} {s : σ} {e : ε}
    (hf : ∀ a, (f a).Completes fun _ => True) (h : (m >>= f).result s = .error e) :
    m.result s = .error e ∧ (m >>= f).final s = m.final s := by
  refine failed_bind (fun a t _ => ?_) h
  obtain ⟨b, u, hexec, -⟩ := hf a t trivial
  exact ⟨b, by rw [result, hexec]⟩

/-- What never fails does not add a failure. -/
theorem fails_bind_iff {f : α → Program σ ε β} {s : σ}
    (hf : ∀ a, (f a).Completes fun _ => True) :
    (∃ e, (m >>= f).result s = .error e) ↔ ∃ e, m.result s = .error e := by
  refine ⟨fun ⟨e, h⟩ => ⟨e, (failed_bind_of_completes hf h).1⟩, fun ⟨e, h⟩ => ⟨e, ?_⟩⟩
  rw [result, exec_bind]
  rw [result] at h
  match hexec : m.exec s with
  | (.ok a, t) =>
      rw [hexec] at h
      contradiction
  | (.error error, t) =>
      rw [hexec] at h
      exact congrArg _ (Except.error.inj h)

end

/-! ## outcomes -/

/-- From `s` the program returns the outcome and ends in `t`; it fails if there is
none. -/
def Yields (m : Program σ ε α) (s : σ) (outcome : Option α) (t : σ) : Prop :=
  match outcome with
  | some a => m.exec s = (.ok a, t)
  | none => ∃ e, m.exec s = (.error e, t)

section

variable {m : Program σ ε α} {f : α → Program σ ε β} {s t : σ}

theorem Yields.exec_bind {a : α} (h : m.Yields s (some a) t) :
    (m >>= f).exec s = (f a).exec t := by
  rw [Program.exec_bind, (h : m.exec s = (.ok a, t))]

theorem Yields.bind_none (h : m.Yields s none t) : (m >>= f).Yields s none t := by
  obtain ⟨e, hexec⟩ := h
  refine ⟨e, ?_⟩
  rw [Program.exec_bind, hexec]

/-- A program fails exactly where it has no outcome. -/
theorem Yields.fails_iff {outcome : Option α} (h : m.Yields s outcome t) :
    (∃ e, m.result s = .error e) ↔ outcome = none := by
  cases outcome with
  | none =>
      obtain ⟨e, hexec⟩ := h
      exact ⟨fun _ => rfl, fun _ => ⟨e, by rw [result, hexec]⟩⟩
  | some a =>
      have hexec : m.exec s = (.ok a, t) := h
      rw [result, hexec]
      simp

theorem Yields.final_eq {outcome : Option α} (h : m.Yields s outcome t) : m.final s = t := by
  cases outcome with
  | none =>
      obtain ⟨e, hexec⟩ := h
      rw [final, hexec]
  | some a => rw [final, (h : m.exec s = (.ok a, t))]

end

end Program

end Support
