import Slight.Json
import Slight.Support.Disk
import Slight.Support.Rolling
import Slight.Support.Utf8

/-!
# Slight.Host.Logging

The log of the host: one JSON line for each entry in `host.log`, which is rotated into
`host.log.1`, `host.log.2`, … when it would pass its limit.

The files are a `Rolling` of the lines written: `write` refines `Rolling.push` in every
run in which no file operation fails.  The names in the directory are the allowed ones
after every single operation, failures or not.  The calls of `write` come one after the
other, as the logger's mutex has it.
-/

namespace Slight

open Support Support.Program Support.FileProgram

structure LogEntryDto where
  timestamp : String
  level : String
  message : String

instance : Record LogEntryDto where
  toFields entry :=
    [("timestamp", toJson entry.timestamp), ("level", toJson entry.level),
      ("message", toJson entry.message)]
  ofFields fields := do
    let timestamp ← fields.required "timestamp"
    let level ← fields.required "level"
    let message ← fields.required "message"
    pure { timestamp, level, message }

def logFileName : String := "host.log"

def rotatedPath (index : Nat) : String := logFileName ++ "." ++ index.repr

/-- `format!("{line}\n")`. -/
def logLine (text : String) : List UInt8 := utf8 (text.toList ++ ['\n'])

/-- `u64::saturating_add`. -/
def saturatingAdd (m n : Nat) : Nat := min (m + n) (2 ^ 64 - 1)

/-- The open log file and how many bytes it has. -/
structure FileState where
  file : Nat
  bytes : Nat

structure HostLogger where
  maxBytes : Nat
  retainedFiles : Nat

namespace HostLogger

def new (maxBytes retainedFiles : Nat) : FileProgram String (HostLogger × FileState) := do
  createDirAll
  let file ← openAppend logFileName
  let bytes ← length file
  pure ({ maxBytes := max maxBytes 1, retainedFiles := max retainedFiles 1 }, { file, bytes })

/-! ## rotation -/

/-- A file is moved over another. -/
def replace (source destination : String) : FileProgram String Unit := do
  let found ← pathExists destination
  (if found then removeFile destination else pure ())
  rename source destination

/-- One round of the loop that makes room for the first rotated file. -/
def shiftOne (index : Nat) : FileProgram String Unit := do
  let found ← pathExists (rotatedPath index)
  if found then replace (rotatedPath index) (rotatedPath (index + 1)) else pure ()

/-- `for index in (1..=count).rev()`. -/
def shift : Nat → FileProgram String Unit
  | 0 => pure ()
  | count + 1 => do
      shiftOne (count + 1)
      shift count

/-- The active file becomes the first rotated one, or is removed if none is kept. -/
def retire (logger : HostLogger) : FileProgram String Unit := do
  let found ← (if 1 < logger.retainedFiles then pathExists logFileName else pure false)
  if found then replace logFileName (rotatedPath 1)
  else do
    let found ← pathExists logFileName
    if found then removeFile logFileName else pure ()

def rotate (logger : HostLogger) : FileProgram String FileState := do
  flush
  (if 2 < logger.retainedFiles then shift (logger.retainedFiles - 2) else pure ())
  logger.retire
  let file ← openAppend logFileName
  pure { file, bytes := 0 }

/-! ## writing -/

-- `serde_json::to_string`
variable (toString : Json → Option String)

/-- The file state to write a line of `size` bytes in; none if rotation failed. -/
def makeRoom (logger : HostLogger) (state : FileState) (size : Nat) :
    FileProgram String (Option FileState) :=
  if 0 < state.bytes ∧ logger.maxBytes < saturatingAdd state.bytes size then do
    let rotated ← logger.rotate.attempt
    pure rotated.toOption
  else pure (some state)

/-- The line goes into the file; a failure is not reported. -/
def append (state : FileState) (line : List UInt8) : FileProgram String FileState := do
  match ← (writeAll state.file line).attempt with
  | .ok _ =>
      let _ ← (flush : FileProgram String Unit).attempt
      pure { state with bytes := saturatingAdd state.bytes line.length }
  | .error _ => pure state

/-- What is left in the logger's mutex. -/
def write (logger : HostLogger) (state : FileState) (entry : LogEntryDto) :
    FileProgram String FileState :=
  match toString (toJson entry) with
  | none => pure state
  | some text => do
      match ← logger.makeRoom state (logLine text).length with
      | none => pure state
      | some state => append state (logLine text)

/-- A logger and the calls of `write` on it. -/
def session (maxBytes retainedFiles : Nat) (entries : List LogEntryDto) :
    FileProgram String FileState := do
  let (logger, state) ← new maxBytes retainedFiles
  entries.foldlM (logger.write toString) state

/-- The lines that are written for some entries. -/
def texts (entries : List LogEntryDto) : List String :=
  entries.filterMap fun entry => toString (toJson entry)

end HostLogger

/-! ## the names of the files -/

/-- The files of the log, the active one first. -/
def logPath : Nat → String
  | 0 => logFileName
  | index + 1 => rotatedPath (index + 1)

theorem rotatedPath_injective : Function.Injective rotatedPath := by
  intro i j h
  have hdigits := congrArg String.toList ((String.append_right_inj _).mp h)
  rw [Nat.toList_repr, Nat.toList_repr] at hdigits
  rw [← Nat.ofDigitChars_ten_toDigits (n := i), hdigits, Nat.ofDigitChars_ten_toDigits]

theorem rotatedPath_ne_logFileName (index : Nat) : rotatedPath index ≠ logFileName := by
  intro h
  have hlength := congrArg String.length h
  rw [rotatedPath, String.length_append, String.length_append] at hlength
  have hdot : (".").length = 1 := rfl
  omega

theorem saturatingAdd_of_le {m n : Nat} (h : m + n ≤ maxLength) : saturatingAdd m n = m + n :=
  Nat.min_eq_left h

theorem length_logLine_pos (text : String) : 0 < (logLine text).length := by
  rw [List.length_pos_iff, logLine, ne_eq, utf8_eq_nil]
  exact List.append_ne_nil_of_right_ne_nil _ (List.cons_ne_nil _ _)

namespace HostLogger

/-! ## failures are accounted for -/

instance honest_replace (source destination : String) : Honest (replace source destination) :=
  honest_bind

instance honest_shiftOne (index : Nat) : Honest (shiftOne index) := honest_bind

instance honest_shift (count : Nat) : Honest (shift count) := by
  induction count with
  | zero => exact honest_pure _
  | succ count ih => exact honest_bind

instance honest_retire (logger : HostLogger) : Honest logger.retire := honest_bind

instance honest_rotate (logger : HostLogger) : Honest logger.rotate := honest_bind

instance honest_makeRoom (logger : HostLogger) (state : FileState) (size : Nat) :
    Honest (logger.makeRoom state size) := honest_ite

instance honest_append (state : FileState) (line : List UInt8) : Honest (append state line) := by
  refine @honest_bind _ _ _ _ _ inferInstance fun outcome => ?_
  cases outcome <;> infer_instance

instance honest_write (toString : Json → Option String) (logger : HostLogger) (state : FileState)
    (entry : LogEntryDto) : Honest (logger.write toString state entry) := by
  unfold write
  split
  · infer_instance
  · refine @honest_bind _ _ _ _ _ inferInstance fun room => ?_
    cases room <;> infer_instance

instance honest_writes (toString : Json → Option String) (logger : HostLogger)
    (entries : List LogEntryDto) (state : FileState) :
    Honest (entries.foldlM (logger.write toString) state) := by
  induction entries generalizing state with
  | nil => exact honest_pure _
  | cons entry entries ih =>
      rw [List.foldlM_cons]
      infer_instance

/-! ## the names in the directory -/

/-- `host.log`, and `host.log.1` up to the last one that is retained. -/
def IsLogName (retainedFiles : Nat) (name : String) : Prop :=
  name = logFileName ∨ ∃ index, 1 ≤ index ∧ index < retainedFiles ∧ name = rotatedPath index

abbrev Named (retainedFiles : Nat) : Directory String → Prop :=
  Directory.Confined (IsLogName retainedFiles)

section

variable {retainedFiles : Nat}

theorem isLogName_rotatedPath {index : Nat} (h : index + 1 < retainedFiles) :
    IsLogName retainedFiles (rotatedPath (index + 1)) :=
  .inr ⟨index + 1, by omega, h, rfl⟩

theorem keeps_replace (source : String) {destination : String}
    (h : IsLogName retainedFiles destination) :
    Keeps (Named retainedFiles) (replace source destination) := by
  refine performs_bind (keeps_pathExists _) fun found => performs_bind ?_ fun _ => keeps_rename _ h
  cases found with
  | false => exact performs_pure _
  | true => exact keeps_removeFile _

theorem keeps_shiftOne {index : Nat} (h : index + 1 < retainedFiles) :
    Keeps (Named retainedFiles) (shiftOne index) := by
  refine performs_bind (keeps_pathExists _) fun found => ?_
  cases found with
  | false => exact performs_pure _
  | true => exact keeps_replace _ (isLogName_rotatedPath h)

theorem keeps_shift {count : Nat} (h : count + 1 < retainedFiles) :
    Keeps (Named retainedFiles) (shift count) := by
  induction count with
  | zero => exact performs_pure _
  | succ count ih => exact performs_bind (keeps_shiftOne h) fun _ => ih (by omega)

theorem keeps_retire (logger : HostLogger) :
    Keeps (Named logger.retainedFiles) logger.retire := by
  have hremove : Keeps (Named logger.retainedFiles) (do
      let found ← pathExists logFileName
      if found then removeFile logFileName else pure () : FileProgram String Unit) := by
    refine performs_bind (keeps_pathExists _) fun found => ?_
    cases found with
    | false => exact performs_pure _
    | true => exact keeps_removeFile _
  by_cases hretained : 1 < logger.retainedFiles
  · unfold retire
    rw [if_pos hretained]
    refine performs_bind (keeps_pathExists _) fun found => ?_
    cases found with
    | false => exact hremove
    | true => exact keeps_replace _ (isLogName_rotatedPath hretained)
  · unfold retire
    rw [if_neg hretained, pure_bind]
    exact hremove

theorem keeps_rotate (logger : HostLogger) :
    Keeps (Named logger.retainedFiles) logger.rotate := by
  refine performs_bind (keeps_read _) fun _ => performs_bind ?_ fun _ =>
    performs_bind logger.keeps_retire fun _ =>
      performs_bind (keeps_openAppend (.inl rfl)) fun _ => performs_pure _
  split
  · exact keeps_shift (by omega)
  · exact performs_pure _

theorem keeps_write (toString : Json → Option String) (logger : HostLogger) (state : FileState)
    (entry : LogEntryDto) :
    Keeps (Named logger.retainedFiles) (logger.write toString state entry) := by
  unfold write
  split
  · exact performs_pure _
  · refine performs_bind ?_ fun room => ?_
    · unfold makeRoom
      split
      · refine performs_bind (performs_attempt logger.keeps_rotate) fun outcome => ?_
        exact performs_pure _
      · exact performs_pure _
    · cases room with
      | none => exact performs_pure _
      | some state =>
          refine performs_bind (performs_attempt (keeps_writeAll _ _)) fun outcome => ?_
          cases outcome with
          | ok _ =>
              exact performs_bind (performs_attempt (keeps_read _)) fun _ => performs_pure _
          | error e => exact performs_pure _

theorem keeps_writes (toString : Json → Option String) (logger : HostLogger)
    (entries : List LogEntryDto) (state : FileState) :
    Keeps (Named logger.retainedFiles) (entries.foldlM (logger.write toString) state) := by
  induction entries generalizing state with
  | nil => exact performs_pure _
  | cons entry entries ih =>
      rw [List.foldlM_cons]
      exact performs_bind (logger.keeps_write toString _ _) fun state => ih state

theorem session_eq (toString : Json → Option String) (maxBytes retainedFiles : Nat)
    (entries : List LogEntryDto) :
    session toString maxBytes retainedFiles entries = (do
      createDirAll
      let file ← openAppend logFileName
      let bytes ← length file
      entries.foldlM (write toString ⟨max maxBytes 1, max retainedFiles 1⟩) ⟨file, bytes⟩) := by
  simp only [session, new, bind_assoc, pure_bind]

/-- **No other name**: whatever fails, the directory never holds more than the active file
and the rotated ones that are retained. -/
theorem keeps_session (toString : Json → Option String) (maxBytes retainedFiles : Nat)
    (entries : List LogEntryDto) :
    Keeps (Named (max retainedFiles 1)) (session toString maxBytes retainedFiles entries) := by
  rw [session_eq]
  exact performs_bind (keeps_read _) fun _ => performs_bind (keeps_openAppend (.inl rfl)) fun _ =>
    performs_bind (keeps_read _) fun _ =>
      keeps_writes toString ⟨max maxBytes 1, max retainedFiles 1⟩ entries _

end

/-! ## a rotation -/

section

variable {s : Disk String}

theorem ensures_replace {source destination : String} (hne : source ≠ destination) :
    Ensures (replace source destination) s fun _ d =>
      d.content = (s.directory.moved source destination).content := by
  refine ensures_bind (ensures_pathExists destination) fun found t ⟨_, ht⟩ => ?_
  cases found with
  | false =>
      rw [if_neg Bool.false_ne_true, pure_bind]
      refine (ensures_rename source destination).mono fun _ d hd => ?_
      rw [hd, ht]
  | true =>
      rw [if_pos rfl]
      refine ensures_bind (ensures_removeFile destination) fun _ u hu => ?_
      refine (ensures_rename source destination).mono fun _ d hd => funext fun name => ?_
      rw [hd, hu, ht, Directory.content_moved, Directory.content_moved,
        Directory.content_without, Directory.content_without, if_neg hne]
      by_cases hname : name = destination
      · rw [if_pos hname, if_pos hname]
      · rw [if_neg hname, if_neg hname, if_neg hname]

/-- The source is missing only where the destination is. -/
theorem ensures_shiftOne {index : Nat}
    (hgap : s.directory.content (rotatedPath index) = none →
      s.directory.content (rotatedPath (index + 1)) = none) :
    Ensures (shiftOne index) s fun _ d =>
      d.content = (s.directory.moved (rotatedPath index) (rotatedPath (index + 1))).content := by
  have hne : rotatedPath index ≠ rotatedPath (index + 1) :=
    fun h => Nat.succ_ne_self index (rotatedPath_injective h).symm
  refine ensures_bind (ensures_pathExists _) fun found t ⟨hfound, ht⟩ => ?_
  cases found with
  | true =>
      rw [if_pos rfl, ← ht]
      exact ensures_replace hne
  | false =>
      have hnone := Option.not_isSome_iff_eq_none.mp (Bool.eq_false_iff.mp hfound.symm)
      refine ensures_pure (funext fun name => ?_)
      rw [ht, Directory.content_moved]
      by_cases hdestination : name = rotatedPath (index + 1)
      · rw [if_pos hdestination, hdestination, hgap hnone, hnone]
      · rw [if_neg hdestination]
        by_cases hsource : name = rotatedPath index
        · rw [if_pos hsource, hsource, hnone]
        · rw [if_neg hsource]

/-- `host.log.1` up to `host.log.count` have moved up by one. -/
structure Shifted (count : Nat) (d d' : Directory String) : Prop where
  moved : ∀ index, 1 ≤ index → index ≤ count →
    d'.content (rotatedPath (index + 1)) = d.content (rotatedPath index)
  same : ∀ name, (∀ index, 1 ≤ index → index ≤ count →
    name ≠ rotatedPath index ∧ name ≠ rotatedPath (index + 1)) → d'.content name = d.content name

/-- No file of the log is missing before the last one. -/
def Gapless (count : Nat) (d : Directory String) : Prop :=
  ∀ index, 1 ≤ index → index ≤ count → d.content (rotatedPath index) = none →
    d.content (rotatedPath (index + 1)) = none

/-- The loop, from the top down: a round frees the name that the next one moves to. -/
theorem ensures_shift {count : Nat} (hgapless : Gapless count s.directory) :
    Ensures (shift count) s fun _ d => Shifted count s.directory d := by
  induction count generalizing s with
  | zero => exact ensures_pure ⟨fun index h h' => by omega, fun _ _ => rfl⟩
  | succ count ih =>
      refine ensures_bind (ensures_shiftOne (hgapless (count + 1) (by omega) le_rfl))
        fun _ t ht => ?_
      have hcontent : ∀ name, t.directory.content name = _ := fun name => congrFun ht name
      have hpath : ∀ {i j}, i ≠ j → rotatedPath i ≠ rotatedPath j :=
        fun h heq => h (rotatedPath_injective heq)
      have hlow : ∀ index, index ≤ count →
          t.directory.content (rotatedPath index) = s.directory.content (rotatedPath index) := by
        intro index hindex
        rw [hcontent, Directory.content_moved, if_neg (hpath (by omega)),
          if_neg (hpath (by omega))]
      refine (ih fun index h h' hnone => ?_).mono fun _ d hd => ⟨fun index h h' => ?_, ?_⟩
      · by_cases hlast : index = count
        · rw [hcontent, Directory.content_moved, if_neg (hpath (by omega)), hlast, if_pos rfl]
        · rw [hlow _ (by omega)]
          rw [hlow _ h'] at hnone
          exact hgapless index h (by omega) hnone
      · by_cases hlast : index = count + 1
        · rw [hlast, hd.same _ fun index' _ h' => ⟨hpath (by omega), hpath (by omega)⟩, hcontent,
            Directory.content_moved, if_pos rfl]
        · rw [hd.moved index h (by omega), hlow _ (by omega)]
      · intro name hname
        rw [hd.same name fun index h h' => hname index h (by omega), hcontent,
          Directory.content_moved, if_neg (hname (count + 1) (by omega) le_rfl).2,
          if_neg (hname (count + 1) (by omega) le_rfl).1]

theorem ensures_retire (logger : HostLogger) (hactive : s.directory.content logFileName ≠ none) :
    Ensures logger.retire s fun _ d =>
      d.content = (if 1 < logger.retainedFiles then s.directory.moved logFileName (rotatedPath 1)
        else s.directory.without logFileName).content := by
  have hfound : (s.directory.content logFileName).isSome = true :=
    Option.isSome_iff_ne_none.mpr hactive
  unfold retire
  by_cases hretained : 1 < logger.retainedFiles
  · rw [if_pos hretained, if_pos hretained]
    refine ensures_bind (ensures_pathExists _) fun found t ⟨hthere, ht⟩ => ?_
    rw [hthere, if_pos hfound, ← ht]
    exact ensures_replace (rotatedPath_ne_logFileName 1).symm
  · rw [if_neg hretained, if_neg hretained, pure_bind, if_neg Bool.false_ne_true]
    refine ensures_bind (ensures_pathExists _) fun found t ⟨hthere, ht⟩ => ?_
    rw [hthere, if_pos hfound]
    refine (ensures_removeFile _).mono fun _ d hd => ?_
    rw [hd, ht]

/-- Every file has the next number, the active one is new and empty, and the one with the
last number is gone. -/
structure Rotated (keep : Nat) (d d' : Directory String) (state : FileState) : Prop where
  file : d'.file logFileName = some state.file
  bytes : state.bytes = 0
  active : d'.content logFileName = some []
  moved : ∀ index, index + 1 < keep → d'.content (logPath (index + 1)) = d.content (logPath index)
  same : ∀ name, name ≠ logFileName →
    (∀ index, 1 ≤ index → index < keep → name ≠ rotatedPath index) →
    d'.content name = d.content name

theorem ensures_rotate (logger : HostLogger) (hactive : s.directory.content logFileName ≠ none)
    (hgapless : Gapless (logger.retainedFiles - 2) s.directory) :
    Ensures logger.rotate s fun state d => Rotated logger.retainedFiles s.directory d state := by
  have hshift : ∀ t : Disk String, t.directory = s.directory →
      Ensures (if 2 < logger.retainedFiles then shift (logger.retainedFiles - 2) else pure ()) t
        fun _ d => Shifted (logger.retainedFiles - 2) s.directory d := by
    intro t ht
    rw [← ht] at hgapless ⊢
    split
    · exact ensures_shift hgapless
    · exact ensures_pure ⟨fun index h h' => by omega, fun _ _ => rfl⟩
  refine ensures_bind (ensures_read _) fun _ t ⟨_, ht⟩ => ?_
  refine ensures_bind (hshift t ht) fun _ u hu => ?_
  have hsame : u.directory.content logFileName = s.directory.content logFileName :=
    hu.same _ fun index _ _ =>
      ⟨(rotatedPath_ne_logFileName _).symm, (rotatedPath_ne_logFileName _).symm⟩
  refine ensures_bind (logger.ensures_retire (hsame ▸ hactive)) fun _ v hv => ?_
  refine ensures_bind (ensures_openAppend logFileName) fun file w hw => ensures_pure ?_
  have hretired : ∀ name, v.directory.content name = _ := fun name => congrFun hv name
  have hopened : ∀ name, w.directory.content name = _ := fun name => by
    rw [show w.directory = (v.directory.opened logFileName).2 from congrArg Prod.snd hw,
      Directory.content_opened]
  have hgone : v.directory.content logFileName = none := by
    rw [hretired]
    split
    · rw [Directory.content_moved, if_neg (rotatedPath_ne_logFileName 1).symm, if_pos rfl]
    · rw [Directory.content_without, if_pos rfl]
  constructor
  · have hfile := Directory.file_opened (d := v.directory) logFileName
    rw [← hw] at hfile
    exact hfile
  · rfl
  · rw [hopened, if_pos rfl, hgone, Option.getD_none]
  · intro index hindex
    rw [logPath, hopened, if_neg (rotatedPath_ne_logFileName _), hretired, if_pos (by omega),
      Directory.content_moved]
    cases index with
    | zero => rw [if_pos rfl, hsame, logPath]
    | succ index =>
        have hne : rotatedPath (index + 1 + 1) ≠ rotatedPath 1 :=
          fun h => by have := rotatedPath_injective h; omega
        rw [if_neg hne, if_neg (rotatedPath_ne_logFileName _),
          hu.moved (index + 1) (by omega) (by omega), logPath]
  · intro name hactive' hname
    have hshifted : u.directory.content name = s.directory.content name :=
      hu.same name fun index h h' => ⟨hname index h (by omega), hname _ (by omega) (by omega)⟩
    rw [hopened, if_neg hactive', hretired]
    split
    · next hretained =>
        rw [Directory.content_moved, if_neg (hname 1 le_rfl hretained), if_neg hactive', hshifted]
    · rw [Directory.content_without, if_neg hactive', hshifted]

end

/-! ## the files are a `Rolling` of the lines -/

/-- The length of a line, in bytes. -/
def lineSize (text : String) : Nat := (logLine text).length

theorem length_flatMap_logLine (lines : List String) :
    (lines.flatMap logLine).length = total lineSize lines := List.length_flatMap

/-- The lines in the files of a logger. -/
abbrev Lines (logger : HostLogger) := Rolling lineSize logger.maxBytes logger.retainedFiles

/-- The next line. -/
abbrev Lines.push {logger : HostLogger} : logger.Lines → String → logger.Lines :=
  Rolling.push length_logLine_pos

/-- The directory holds the files of `r` and no others, and the newest of them is open. -/
structure Represents (logger : HostLogger) (r : logger.Lines) (state : FileState)
    (d : Directory String) : Prop where
  file : d.file logFileName = some state.file
  bytes : state.bytes = total lineSize r.newest
  files : ∀ index, d.content (logPath index) = r.files[index]?.map (List.flatMap logLine)
  others : ∀ name, (∀ index, name ≠ logPath index) → d.content name = none

section

variable {s : Disk String} {logger : HostLogger} {r : logger.Lines} {state : FileState}

theorem Represents.content_active {d : Directory String} (h : Represents logger r state d) :
    d.content logFileName = some (r.newest.flatMap logLine) := h.files 0

theorem Represents.gapless {d : Directory String} (h : Represents logger r state d) (count : Nat) :
    Gapless count d := by
  intro index hindex _ hnone
  obtain ⟨index, rfl⟩ : ∃ k, index = k + 1 := ⟨index - 1, by omega⟩
  have hthis := h.files (index + 1)
  have hnext := h.files (index + 1 + 1)
  rw [logPath] at hthis hnext
  rw [hnone, eq_comm, Option.map_eq_none_iff, List.getElem?_eq_none_iff] at hthis
  rw [hnext, List.getElem?_eq_none (by omega), Option.map_none]

theorem ensures_rotate_represents (h : Represents logger r state s.directory) :
    Ensures logger.rotate s (Represents logger r.roll) := by
  have hactive : s.directory.content logFileName ≠ none := by
    rw [h.content_active]
    exact Option.some_ne_none _
  refine (logger.ensures_rotate hactive (h.gapless _)).mono fun state' d hd => ?_
  have hlength := r.length_files_le
  refine ⟨hd.file, hd.bytes, fun index => ?_, fun name hname => ?_⟩
  · rw [Rolling.files_roll, List.getElem?_take]
    cases index with
    | zero =>
        rw [if_pos (by have := r.few; omega), logPath, hd.active]
        rfl
    | succ index =>
        rw [List.getElem?_cons_succ]
        by_cases hkept : index + 1 < logger.retainedFiles
        · rw [if_pos hkept, hd.moved index hkept, h.files]
        · rw [if_neg hkept, Option.map_none, logPath,
            hd.same _ (rotatedPath_ne_logFileName _) fun index' _ hindex' heq => by
              have := rotatedPath_injective heq
              omega]
          have hold := h.files (index + 1)
          rw [List.getElem?_eq_none (by omega), Option.map_none, logPath] at hold
          exact hold
  · rw [hd.same name (hname 0) fun index hindex _ heq => ?_]
    · exact h.others name hname
    · obtain ⟨index, rfl⟩ : ∃ k, index = k + 1 := ⟨index - 1, by omega⟩
      exact hname (index + 1) heq

/-- A line that is written fits into a file, and its length does not saturate. -/
theorem ensures_append (h : Represents logger r state s.directory) (text : String) :
    Ensures (append state (logLine text)) s fun state' d =>
      state.bytes + lineSize text ≤ maxLength ∧
        ∀ hroom, Represents logger (r.add text hroom) state' d := by
  have hbytes : s.directory.bytes state.file = r.newest.flatMap logLine := by
    have hcontent := Directory.content_of_file h.file
    rw [h.content_active] at hcontent
    exact (Option.some.inj hcontent).symm
  refine @ensures_bind _ _ _ _ _ _ _ _ _ (fun outcome => ?_)
    (ensures_attempt (ensures_writeAll _ _)) fun outcome t ⟨_, hok, hfits, ht⟩ => ?_
  · cases outcome <;> infer_instance
  rw [hok]
  refine ensures_bind (ensures_attempt (ensures_read _)) fun _ u ⟨_, _, _, hu⟩ => ensures_pure ?_
  rw [hbytes, length_flatMap_logLine, ← h.bytes] at hfits
  have hfits : state.bytes + lineSize text ≤ maxLength := hfits
  have hcontent := fun name => Directory.content_appended h.file (logLine text) name
  rw [hu, ht]
  refine ⟨hfits, fun hroom => ⟨h.file, ?_, fun index => ?_, fun name hname => ?_⟩⟩
  · show saturatingAdd state.bytes (lineSize text) = _
    rw [saturatingAdd_of_le hfits, h.bytes]
    exact (total_append_singleton r.newest text).symm
  · rw [hcontent]
    cases index with
    | zero =>
        rw [logPath, if_pos rfl, hbytes, Rolling.files, List.getElem?_cons_zero, Option.map_some,
          Rolling.add, List.flatMap_append, List.flatMap_singleton]
    | succ index =>
        have hne : logPath (index + 1) ≠ logFileName := rotatedPath_ne_logFileName _
        rw [if_neg hne, h.files]
        rfl
  · have hne : name ≠ logFileName := hname 0
    rw [hcontent, if_neg hne, h.others name hname]

/-- There is room for a line: in the same file, or in a new one. -/
theorem ensures_makeRoom (h : Represents logger r state s.directory) (size : Nat) :
    Ensures (logger.makeRoom state size) s fun room d => ∃ state', room = some state' ∧
      if 0 < state.bytes ∧ logger.maxBytes < saturatingAdd state.bytes size then
        Represents logger r.roll state' d
      else state' = state ∧ Represents logger r state d := by
  unfold makeRoom
  by_cases hfull : 0 < state.bytes ∧ logger.maxBytes < saturatingAdd state.bytes size
  · simp only [if_pos hfull]
    refine ensures_bind (ensures_attempt (ensures_rotate_represents h))
      fun outcome t ⟨state', hok, ht⟩ => ensures_pure ⟨state', ?_, ht⟩
    rw [hok]
    rfl
  · simp only [if_neg hfull]
    exact ensures_pure ⟨state, rfl, rfl, h⟩

theorem texts_cons (toString : Json → Option String) (entry : LogEntryDto)
    (entries : List LogEntryDto) :
    texts toString (entry :: entries) =
      (toString (toJson entry)).toList ++ texts toString entries := by
  rw [texts, List.filterMap_cons, texts]
  cases toString (toJson entry) <;> rfl

/-- **Refinement**: a call of `write` in which no operation fails pushes its line. -/
theorem ensures_write (toString : Json → Option String) (entry : LogEntryDto)
    (h : Represents logger r state s.directory) :
    Ensures (logger.write toString state entry) s
      (Represents logger ((toString (toJson entry)).toList.foldl Lines.push r)) := by
  unfold write
  cases toString (toJson entry) with
  | none => exact ensures_pure h
  | some text =>
      show Ensures _ s (Represents logger (r.push text))
      refine @ensures_bind _ _ _ _ _ _ _ _ _ (fun room => ?_)
        (ensures_makeRoom h (lineSize text)) fun room t ⟨state', hroom, ht⟩ => ?_
      · cases room <;> infer_instance
      rw [hroom]
      unfold Lines.push Rolling.push
      split at ht
      · next hfull =>
          have hfull' : r.Full (lineSize text) := by
            rw [h.bytes] at hfull
            exact ⟨hfull.1, hfull.2.trans_le (Nat.min_le_left _ _)⟩
          rw [dif_pos hfull']
          exact (ensures_append ht text).mono fun _ _ ⟨_, hadd⟩ => hadd _
      · next hroom' =>
          obtain ⟨rfl, ht⟩ := ht
          -- the addition did not saturate, or the line would not have fitted into the file
          refine (ensures_append ht text).mono fun _ _ ⟨hfits, hadd⟩ => ?_
          have hnot : ¬ r.Full (lineSize text) := by
            rw [saturatingAdd_of_le hfits, h.bytes] at hroom'
            exact hroom'
          rw [dif_neg hnot]
          exact hadd _

/-- **A run**: the files are the `Rolling` of all lines written. -/
theorem ensures_writes (toString : Json → Option String) (entries : List LogEntryDto)
    (h : Represents logger r state s.directory) :
    Ensures (entries.foldlM (logger.write toString) state) s
      (Represents logger ((texts toString entries).foldl Lines.push r)) := by
  induction entries generalizing r state s with
  | nil => exact ensures_pure h
  | cons entry entries ih =>
      rw [List.foldlM_cons, texts_cons, List.foldl_append]
      exact ensures_bind (ensures_write toString entry h) fun state' t ht => ih ht

end

/-! ## what the log keeps -/

/-- A run leaves the files of a `Rolling`. -/
theorem ensures_session (toString : Json → Option String) (maxBytes retainedFiles : Nat)
    (entries : List LogEntryDto) (faults : Nat → Option Nat) :
    Ensures (session toString maxBytes retainedFiles entries) (.start .empty faults)
      (Represents ⟨max maxBytes 1, max retainedFiles 1⟩
        ((texts toString entries).foldl Lines.push (Rolling.start (Nat.le_max_right _ _)))) := by
  rw [session_eq]
  refine ensures_bind (ensures_read _) fun _ t ⟨_, ht⟩ => ?_
  refine ensures_bind (ensures_openAppend _) fun file u hu => ?_
  refine ensures_bind (ensures_read _) fun bytes v ⟨hbytes, hv⟩ => ?_
  refine ensures_writes toString entries ?_
  have hopened : v.directory = (t.directory.opened logFileName).2 := by
    rw [hv, ← hu]
  have hcontent : ∀ name, v.directory.content name =
      if name = logFileName then some [] else none := by
    intro name
    rw [hopened, Directory.content_opened, ht]
    rfl
  have hfile : v.directory.file logFileName = some file := by
    have h := Directory.file_opened (d := t.directory) logFileName
    rw [← hu] at h
    rw [hv]
    exact h
  have hempty : u.directory.bytes file = [] := by
    have h := hcontent logFileName
    rw [if_pos rfl, Directory.content_of_file hfile, hv] at h
    exact Option.some.inj h
  refine ⟨hfile, ?_, fun index => ?_, fun name hname => ?_⟩
  · show bytes = 0
    rw [hbytes, hempty]
    rfl
  · rw [hcontent]
    cases index with
    | zero => exact if_pos rfl
    | succ index => exact if_neg (rotatedPath_ne_logFileName _)
  · rw [hcontent]
    exact if_neg (hname 0)

/-- What a log directory is to hold of the lines `written`: in the files, from the one with
the highest number down to the active one, the last lines in order. -/
def KeepsNewest (maxBytes retainedFiles : Nat) (written : List String) (disk : Disk String) :
    Prop :=
  Always (Named retainedFiles) disk ∧
  ∃ files : List (List String),
    (∀ index, disk.directory.content (logPath index) = files[index]?.map (List.flatMap logLine)) ∧
    files.reverse.flatten <:+ written ∧
    (∀ last, written.getLast? = some last →
      ∃ newest, files.head? = some newest ∧ newest.getLast? = some last) ∧
    ∀ lines ∈ files, (lines.flatMap logLine).length ≤ maxBytes ∨ lines.length = 1

theorem IsLogName.of_max {retainedFiles : Nat} {name : String}
    (h : IsLogName (max retainedFiles 1) name) : IsLogName retainedFiles name := by
  rcases h with rfl | ⟨index, hpos, hlt, rfl⟩
  · exact .inl rfl
  · exact .inr ⟨index, hpos, by omega, rfl⟩

/-- A limit of no bytes is a limit of one, which no line but an empty one keeps. -/
theorem bounded_of_max {maxBytes : Nat} {lines : List String}
    (h : total lineSize lines ≤ max maxBytes 1 ∨ lines.length = 1) :
    (lines.flatMap logLine).length ≤ maxBytes ∨ lines.length = 1 := by
  rw [length_flatMap_logLine]
  rcases h with h | h
  · have hlength := length_le_total length_logLine_pos lines
    cases lines with
    | nil => exact .inl (Nat.zero_le _)
    | cons line lines =>
        rw [List.length_cons] at hlength ⊢
        change _ ≤ total lineSize _ at hlength
        omega
  · exact .inr h

/-- **Rotation keeps the newest lines**: in every run from an empty directory in which no
file operation fails. -/
theorem session_keeps_newest (toString : Json → Option String) (maxBytes retainedFiles : Nat)
    (entries : List LogEntryDto) (faults : Nat → Option Nat)
    (hclean : ((session toString maxBytes retainedFiles entries).final
      (.start .empty faults)).failures = 0) :
    KeepsNewest maxBytes retainedFiles (texts toString entries)
      ((session toString maxBytes retainedFiles entries).final (.start .empty faults)) := by
  have hnames := (keeps_session toString maxBytes retainedFiles entries).preserves
    (I := Always (Named (max retainedFiles 1))) (fun s t h => h)
    (always_start Directory.confined_empty faults)
  refine ⟨hnames.mono fun d hd name hname => (hd name hname).of_max, ?_⟩
  obtain ⟨state, t, hexec, ht⟩ := ensures_session toString maxBytes retainedFiles entries faults
    hclean
  rw [final, hexec]
  refine ⟨_, ht.files, ?_, fun last hlast => ⟨_, rfl, ?_⟩, fun lines hlines => ?_⟩
  · exact Rolling.items_foldl_start length_logLine_pos _ _
  · exact Rolling.getLast?_newest_foldl length_logLine_pos _ hlast
  · exact bounded_of_max (Rolling.bounded _ lines hlines)

/-- Three entries of 72 bytes under a limit of 80, of which two files are retained. -/
theorem session_keeps_newest_two :
    KeepsNewest 80 2
      (texts (fun _ => some
        "\x7b\"timestamp\":\"2026-01-01T00:00:00Z\",\"level\":\"info\",\"message\":\"started\"\x7d")
        (List.replicate 3 ⟨"2026-01-01T00:00:00Z", "info", "started"⟩))
      ((session (fun _ => some
        "\x7b\"timestamp\":\"2026-01-01T00:00:00Z\",\"level\":\"info\",\"message\":\"started\"\x7d")
        80 2 (List.replicate 3 ⟨"2026-01-01T00:00:00Z", "info", "started"⟩)).final
          (.start .empty fun _ => none)) :=
  session_keeps_newest _ 80 2 _ _ (by decide +kernel)

end HostLogger

end Slight
