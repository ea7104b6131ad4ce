import Slight.Support.Directory
import Slight.Support.Program

/-!
# Slight.Support.Disk

Programs that work on a directory through file operations, each of which may fail.  The
disk counts the failures and keeps every directory it has had.

* `Honest m` says that `m` fails only where an operation has failed;
* `Ensures m s Q` says what `m`, started on `s`, returns and leaves if no operation on the
  way fails;
* `Always J` is what holds of every directory so far, failures or not.
-/

namespace Support

/-- A file operation has failed. -/
inductive IoError where
  | failed
  deriving DecidableEq

/-- A directory under file operations.  `faults n` says whether the `n`-th of them fails
from outside; a write does so after some bytes. -/
structure Disk (N : Type) where
  directory : Directory N
  history : List (Directory N)
  faults : Nat → Option Nat
  attempts : Nat
  failures : Nat

namespace Disk

variable {N α β : Type}

/-- A disk on which nothing was done yet. -/
def start (directory : Directory N) (faults : Nat → Option Nat) : Disk N where
  directory := directory
  history := [directory]
  faults := faults
  attempts := 0
  failures := 0

/-- The disk after an operation that left `directory`. -/
def next (s : Disk N) (directory : Directory N) (failed : Bool) : Disk N where
  directory := directory
  history := s.history ++ [directory]
  faults := s.faults
  attempts := s.attempts + 1
  failures := s.failures + if failed then 1 else 0

end Disk

/-- Programs on a disk. -/
abbrev FileProgram (N : Type) := Program (Disk N) IoError

namespace FileProgram

open Program

variable {N α β : Type}

/-! ## an operation -/

/-- The next operation.  If it fails, it leaves what `part` says, of the number of bytes
that were written. -/
def perform (action : Directory N → Option (α × Directory N))
    (part : Nat → Directory N → Directory N) : FileProgram N α := do
  let s ← get
  match s.faults s.attempts, action s.directory with
  | none, some (a, directory) =>
      set (s.next directory false)
      pure a
  | fault, _ =>
      set (s.next (part (fault.getD 0) s.directory) true)
      throw .failed

/-- An operation that is done or not. -/
def simple (action : Directory N → Option (α × Directory N)) : FileProgram N α :=
  perform action fun _ d => d

/-! ## failures -/

/-- The program fails only where an operation has failed. -/
class Honest (m : FileProgram N α) : Prop where
  mono : ∀ s, s.failures ≤ (m.final s).failures
  error : ∀ s e, m.result s = .error e → s.failures < (m.final s).failures

/-- An operation happens and succeeds, or it fails and leaves what `part` leaves. -/
theorem exec_perform (action : Directory N → Option (α × Directory N))
    (part : Nat → Directory N → Directory N) (s : Disk N) :
    (∃ a directory, s.faults s.attempts = none ∧ action s.directory = some (a, directory) ∧
      (perform action part).exec s = (.ok a, s.next directory false)) ∨
    (∃ written, (perform action part).exec s =
      (.error .failed, s.next (part written s.directory) true)) := by
  rw [perform, exec_bind, exec_get]
  dsimp only
  split
  · next a directory hfault haction =>
      left
      exact ⟨a, directory, hfault, haction, rfl⟩
  · right
    exact ⟨_, rfl⟩

/-- One operation counts its own failure. -/
instance honest_perform (action : Directory N → Option (α × Directory N))
    (part : Nat → Directory N → Directory N) : Honest (perform action part) := by
  constructor
  · intro s
    rw [final]
    obtain ⟨a, directory, -, -, h⟩ | ⟨written, h⟩ := exec_perform action part s <;> rw [h]
    · exact Nat.le_refl _
    · exact Nat.le_succ _
  · intro s e herror
    rw [result] at herror
    rw [final]
    obtain ⟨a, directory, -, -, h⟩ | ⟨written, h⟩ := exec_perform action part s
    · rw [h] at herror
      contradiction
    · rw [h]
      exact Nat.lt_succ_self _

instance honest_pure (a : α) : Honest (pure a : FileProgram N α) where
  mono _ := Nat.le_refl _
  error s e h := by
    rw [result, exec_pure] at h
    contradiction

/-- Failures are never taken back, so those of both parts are counted. -/
instance honest_bind {m : FileProgram N α} {f : α → FileProgram N β} [hm : Honest m]
    [hf : ∀ a, Honest (f a)] : Honest (m >>= f) := by
  constructor
  · intro s
    have hfirst := hm.mono s
    rw [final] at hfirst
    rw [final_bind]
    split
    · next a t h =>
        rw [h] at hfirst
        exact Nat.le_trans hfirst ((hf a).mono t)
    · next e t h =>
        rw [h] at hfirst
        exact hfirst
  · intro s e herror
    rw [result, exec_bind] at herror
    have hfirst := hm.mono s
    rw [final] at hfirst
    rw [final_bind]
    split at herror
    · next a t h =>
        rw [h] at hfirst
        exact Nat.lt_of_le_of_lt hfirst ((hf a).error t e herror)
    · next e' t h =>
        have hlt := hm.error s e' (by rw [result, h])
        rw [final, h] at hlt
        exact hlt

/-- A program that deals with its failures. -/
instance honest_attempt {m : FileProgram N α} [hm : Honest m] : Honest m.attempt where
  mono := hm.mono
  error s e h := by
    rw [result, exec_attempt] at h
    contradiction

instance honest_ite {c : Prop} [Decidable c] {m m' : FileProgram N α} [Honest m]
    [Honest m'] : Honest (if c then m else m') := by
  split <;> infer_instance

/-! ## runs without a failure -/

/-- If no operation fails, the program returns a value, and `Q` holds of it and of the
directory. -/
def Ensures (m : FileProgram N α) (s : Disk N) (Q : α → Directory N → Prop) : Prop :=
  (m.final s).failures = s.failures → ∃ a t, m.exec s = (.ok a, t) ∧ Q a t.directory

section

variable {s : Disk N} {m : FileProgram N α} {f : α → FileProgram N β}
  {Q Q' : α → Directory N → Prop} {R : β → Directory N → Prop}

/-- A weaker property holds too. -/
theorem Ensures.mono (h : Ensures m s Q) (hQ : ∀ a d, Q a d → Q' a d) : Ensures m s Q' := by
  intro hclean
  obtain ⟨a, t, hexec, ha⟩ := h hclean
  exact ⟨a, t, hexec, hQ a _ ha⟩

theorem ensures_pure {a : α} (h : Q a s.directory) : Ensures (pure a) s Q :=
  fun _ => ⟨a, s, rfl, h⟩

/-- **Sequencing**: neither part has a failure. -/
theorem ensures_bind [hm : Honest m] [hf : ∀ a, Honest (f a)] (h : Ensures m s Q)
    (hnext : ∀ a t, Q a t.directory → Ensures (f a) t R) : Ensures (m >>= f) s R := by
  intro hclean
  rw [final_bind] at hclean
  rw [exec_bind]
  have hfirst := hm.mono s
  have herror := hm.error s
  unfold Ensures at h
  rw [result] at herror
  rw [final] at hfirst herror h
  match hexec : m.exec s with
  | (.ok a, t) =>
      rw [hexec] at hclean hfirst h
      have hsecond := (hf a).mono t
      dsimp only at hclean hfirst h
      obtain ⟨a', t', heq, hQ⟩ := h (by omega)
      cases heq
      exact hnext a t hQ (by omega)
  | (.error e, t) =>
      rw [hexec] at hclean herror
      have hlt := herror e rfl
      dsimp only at hclean hlt
      omega

/-- An operation that succeeds has happened. -/
theorem ensures_perform {action : Directory N → Option (α × Directory N)}
    {part : Nat → Directory N → Directory N}
    (h : ∀ a d, action s.directory = some (a, d) → Q a d) :
    Ensures (perform action part) s Q := by
  intro hclean
  obtain ⟨a, d, -, haction, hexec⟩ | ⟨written, hexec⟩ := exec_perform action part s
  · exact ⟨a, s.next d false, hexec, h a d haction⟩
  · rw [final, hexec] at hclean
    exact absurd hclean (Nat.succ_ne_self _)

/-- Without a failure an attempt has a value. -/
theorem ensures_attempt (h : Ensures m s Q) :
    Ensures m.attempt s fun outcome d => ∃ a, outcome = .ok a ∧ Q a d := by
  intro hclean
  obtain ⟨a, t, hexec, hQ⟩ := h hclean
  refine ⟨m.result s, m.final s, rfl, a, ?_, ?_⟩
  · rw [result, hexec]
  · rw [final, hexec]
    exact hQ

end

/-! ## every directory on the way -/

/-- `J` holds of every directory so far. -/
def Always (J : Directory N → Prop) (s : Disk N) : Prop :=
  J s.directory ∧ ∀ d ∈ s.history, J d

/-- At the start there is one directory to look at. -/
theorem always_start {J : Directory N → Prop} {d : Directory N} (h : J d)
    (faults : Nat → Option Nat) : Always J (.start d faults) := by
  refine ⟨h, fun d' hd' => ?_⟩
  rw [List.mem_singleton.mp hd']
  exact h

/-- A weaker property holds too. -/
theorem Always.mono {J J' : Directory N → Prop} {s : Disk N} (h : Always J s)
    (hJ : ∀ d, J d → J' d) : Always J' s :=
  ⟨hJ _ h.1, fun d hd => hJ d (h.2 d hd)⟩

/-- The program keeps `J`, whatever fails. -/
abbrev Keeps (J : Directory N → Prop) (m : FileProgram N α) : Prop :=
  m.Performs fun s t => Always J s → Always J t

/-- An operation keeps what both it and its failing halfway keep. -/
theorem keeps_perform {J : Directory N → Prop} {action : Directory N → Option (α × Directory N)}
    {part : Nat → Directory N → Directory N}
    (haction : ∀ d a d', action d = some (a, d') → J d → J d')
    (hpart : ∀ written d, J d → J (part written d)) : Keeps J (perform action part) := by
  refine performs_of_step fun s ⟨hnow, hpast⟩ => ?_
  have hnext : ∀ d failed, J d → Always J (s.next d failed) := by
    intro d failed hd
    refine ⟨hd, fun d' hd' => ?_⟩
    rcases List.mem_append.mp hd' with hd' | hd'
    · exact hpast d' hd'
    · rw [List.mem_singleton.mp hd']
      exact hd
  rw [final]
  obtain ⟨a, d, -, h, hexec⟩ | ⟨written, hexec⟩ := exec_perform action part s <;> rw [hexec]
  · exact hnext d _ (haction _ a d h hnow)
  · exact hnext _ _ (hpart written _ hnow)

/-! ## file operations -/

/-- The most bytes a file holds: its length is a `u64`. -/
def maxLength : Nat := 2 ^ 64 - 1

/-- An operation that changes nothing. -/
def read (look : Directory N → α) : FileProgram N α := simple fun d => some (look d, d)

/-- The directory is there from the start. -/
def createDirAll : FileProgram N Unit := read fun _ => ()

/-- `Path::exists`, which is false if it cannot tell. -/
def pathExists (name : N) : FileProgram N Bool := do
  let found ← (read fun d => (d.file name).isSome).attempt
  pure (found.toOption.getD false)

/-- A file that is not there cannot be removed. -/
def removeFile [DecidableEq N] (name : N) : FileProgram N Unit :=
  simple fun d => if (d.file name).isSome then some ((), d.without name) else none

/-- A file that is not there cannot be renamed; one under the new name is replaced. -/
def rename [DecidableEq N] (source destination : N) : FileProgram N Unit :=
  simple fun d =>
    if (d.file source).isSome then some ((), d.moved source destination) else none

/-- `OpenOptions::new().create(true).append(true).open`. -/
def openAppend [DecidableEq N] (name : N) : FileProgram N Nat :=
  simple fun d => some (d.opened name)

/-- `metadata()?.len()` of an open file. -/
def length (file : Nat) : FileProgram N Nat := read fun d => (d.bytes file).length

/-- Nothing is buffered. -/
def flush : FileProgram N Unit := read fun _ => ()

/-- Appends to an open file; a failure leaves a part of the text behind. -/
def writeAll (file : Nat) (text : List UInt8) : FileProgram N Unit :=
  perform
    (fun d =>
      if (d.bytes file).length + text.length ≤ maxLength then some ((), d.appended file text)
      else none)
    fun written d => d.appended file (text.take written)

/-! ### their failures -/

instance honest_simple (action : Directory N → Option (α × Directory N)) : Honest (simple action) :=
  honest_perform action _

instance honest_read (look : Directory N → α) : Honest (read look) := honest_simple _

instance honest_createDirAll : Honest (createDirAll : FileProgram N Unit) := honest_read _

instance honest_pathExists (name : N) : Honest (pathExists name) := honest_bind

instance honest_removeFile [DecidableEq N] (name : N) : Honest (removeFile name) := honest_simple _

instance honest_rename [DecidableEq N] (source destination : N) :
    Honest (rename source destination) := honest_simple _

instance honest_openAppend [DecidableEq N] (name : N) : Honest (openAppend name) := honest_simple _

instance honest_length (file : Nat) : Honest (length file : FileProgram N Nat) := honest_read _

instance honest_flush : Honest (flush : FileProgram N Unit) := honest_read _

instance honest_writeAll (file : Nat) (text : List UInt8) :
    Honest (writeAll file text : FileProgram N Unit) := honest_perform _ _

/-! ### what they do -/

section

variable {s : Disk N}

theorem ensures_simple {action : Directory N → Option (α × Directory N)}
    {Q : α → Directory N → Prop} (h : ∀ a d, action s.directory = some (a, d) → Q a d) :
    Ensures (simple action) s Q :=
  ensures_perform h

theorem ensures_read (look : Directory N → α) :
    Ensures (read look) s fun a d => a = look s.directory ∧ d = s.directory := by
  refine ensures_simple fun _ d h => ?_
  cases h
  exact ⟨rfl, rfl⟩

theorem ensures_pathExists (name : N) :
    Ensures (pathExists name) s fun found d =>
      found = (s.directory.content name).isSome ∧ d = s.directory := by
  refine ensures_bind (ensures_attempt (ensures_read _))
    fun outcome t ⟨found, hok, hfound, ht⟩ => ensures_pure ⟨?_, ht⟩
  rw [hok, hfound, Directory.content, Option.isSome_map]
  rfl

theorem ensures_removeFile [DecidableEq N] (name : N) :
    Ensures (removeFile name) s fun _ d => d = s.directory.without name := by
  refine ensures_simple fun _ d h => ?_
  split at h
  · cases h
    rfl
  · contradiction

theorem ensures_rename [DecidableEq N] (source destination : N) :
    Ensures (rename source destination) s fun _ d =>
      d = s.directory.moved source destination := by
  refine ensures_simple fun _ d h => ?_
  split at h
  · cases h
    rfl
  · contradiction

theorem ensures_openAppend [DecidableEq N] (name : N) :
    Ensures (openAppend name) s fun file d => (file, d) = s.directory.opened name := by
  refine ensures_simple fun file d h => ?_
  exact (Option.some.inj h).symm

theorem ensures_writeAll (file : Nat) (text : List UInt8) :
    Ensures (writeAll file text) s fun _ d =>
      (s.directory.bytes file).length + text.length ≤ maxLength ∧
        d = s.directory.appended file text := by
  refine ensures_perform fun _ d h => ?_
  split at h
  · next hfits =>
      cases h
      exact ⟨hfits, rfl⟩
  · contradiction

end

/-! ### the names they use -/

section

open Directory

variable {allowed : N → Prop}

theorem keeps_read {J : Directory N → Prop} (look : Directory N → α) : Keeps J (read look) := by
  refine keeps_perform (fun d _ d' h hd => ?_) fun _ _ hd => hd
  cases h
  exact hd

theorem keeps_pathExists {J : Directory N → Prop} (name : N) : Keeps J (pathExists name) :=
  performs_bind (performs_attempt (keeps_read _)) fun _ => performs_pure _

theorem keeps_removeFile [DecidableEq N] (name : N) :
    Keeps (Confined allowed) (removeFile name) := by
  refine keeps_perform (fun d _ d' h hd => ?_) fun _ _ hd => hd
  split at h
  · cases h
    exact hd.without name
  · contradiction

theorem keeps_rename [DecidableEq N] (source : N) {destination : N} (h : allowed destination) :
    Keeps (Confined allowed) (rename source destination) := by
  refine keeps_perform (fun d _ d' hdone hd => ?_) fun _ _ hd => hd
  split at hdone
  · cases hdone
    exact hd.moved source h
  · contradiction

theorem keeps_openAppend [DecidableEq N] {name : N} (h : allowed name) :
    Keeps (Confined allowed) (openAppend name) := by
  refine keeps_perform (fun d file d' hdone hd => ?_) fun _ _ hd => hd
  have heq : d.opened name = (file, d') := Option.some.inj hdone
  have hopened := hd.opened h
  rw [heq] at hopened
  exact hopened

theorem keeps_writeAll (file : Nat) (text : List UInt8) :
    Keeps (Confined allowed) (writeAll file text) := by
  refine keeps_perform (fun d _ d' h hd => ?_) fun written d hd => hd.appended file _
  split at h
  · cases h
    exact hd.appended file text
  · contradiction

end

end FileProgram

end Support
