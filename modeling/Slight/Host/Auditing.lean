import Slight.Host.Logging
import Slight.Host.Pairing

/-!
# Slight.Host.Auditing

The log of a host that runs.  A call of `log` reads the clock and then takes the lock of
the recent entries; under it the entry goes into the ring of the last `logLimit` and into
the log files.  Any number of calls wait for the lock, in any order, beside the hellos,
pairings and revocations that make them.

* `ring` — the ring holds the last entries recorded, and so do the files;
* `accounts` — every device, every offer and every revocation is logged exactly once.
-/

namespace Slight

namespace HostService

open Gateway Support Support.Program

/-! ## what is logged -/

/-- What a call of `log` is given. -/
structure Line where
  level : String
  message : String
  deriving DecidableEq

def info (message : String) : Line := ⟨"info", message⟩

/-- A call of `log`, and the clock if it has read it. -/
structure LogCall where
  line : Line
  stamp : Option Int

def LogCall.waiting (line : Line) : LogCall := ⟨line, none⟩

/-- The entry of a line. -/
def Line.entry (line : Line) (now : Int) : LogEntryDto where
  timestamp := rfc3339FromMs now
  level := line.level
  message := line.message

/-- The line of an entry. -/
def entryLine (entry : LogEntryDto) : Line := ⟨entry.level, entry.message⟩

def logLimit : Nat := 200

/-- `push_back`, then `pop_front` while there are too many. -/
def pushLog (logs : List LogEntryDto) (entry : LogEntryDto) : List LogEntryDto :=
  (logs ++ [entry]).rtake logLimit

def pairingConsumed (label : String) : Line := info ("pairing consumed by " ++ label)

def pairingCreated (label : String) : Line := info ("pairing created for " ++ label)

def deviceRevoked (deviceId : String) : Line := info ("device revoked: " ++ deviceId)

def developmentAccepted (label : String) : Line :=
  info ("development credential accepted for " ++ label)

/-- What is logged of a device that a hello in this phase inserts. -/
def Phase.inserts : Phase → List Line
  | .registering admission _ => [pairingConsumed admission.label]
  | _ => []

/-- What is logged of a hello that neither a code nor a token admits. -/
def developmentLines (config : HostConfig) (call : Authentication) : List Line :=
  match developmentAnswer config call with
  | .ok _ => [developmentAccepted call.hello.clientName]
  | .error _ => []

namespace HostState

/-- What is logged of the records that the section of an act changes. -/
def noted (s : HostState) : Act → List Line
  | .register i _ _ => (s.calls[i]?).toList.flatMap fun call => call.phase.inserts
  | .insertPairing k _ _ =>
      (s.creations[k]?).toList.map fun creation => pairingCreated creation.label
  | .revokeDevice deviceId =>
      (s.devices.find? (·.deviceId == deviceId)).toList.map fun _ => deviceRevoked deviceId
  | _ => []

/-- What is logged of a credential that is accepted in development. -/
def developed (config : HostConfig) (s : HostState) : Act → List Line
  | .findDevice i none => (s.calls[i]?).toList.flatMap (developmentLines config)
  | _ => []

end HostState

/-! ## the host with its log -/

/-- A host, the calls of `log` that wait, the ring and the files.  `recorded` and `said` are
what happened so far: all entries, in the order of the lock, and the lines that are about no
record. -/
structure LoggingHost where
  host : HostState
  calls : List LogCall
  logs : List LogEntryDto
  file : FileState
  disk : Disk String
  recorded : List LogEntryDto
  said : List Line

/-- What happens: a section of the host; a line of the gateway, of a stop or a restart, or of
the host as it starts and ends; and the two steps of a call of `log`. -/
inductive LogAct where
  | host (act : Act)
  | say (line : Line)
  | stamp (k : Nat)
  | record (k : Nat)

namespace LoggingHost

variable (toString : Json → Option String) (logger : HostLogger)

/-- The section under the lock of the ring. -/
def record (s : LoggingHost) (entry : LogEntryDto) : LoggingHost :=
  let (outcome, disk) := (logger.write toString s.file entry).exec s.disk
  { s with
    logs := pushLog s.logs entry
    file := outcome.toOption.getD s.file
    disk
    recorded := s.recorded ++ [entry] }

def next (config : HostConfig) (s : LoggingHost) : LogAct → Option LoggingHost
  | .host act =>
      (HostService.next config s.host act).map fun host =>
        { s with
          host
          calls := s.calls ++ (s.host.noted act ++ s.host.developed config act).map .waiting
          said := s.said ++ s.host.developed config act }
  | .say line =>
      some { s with
        calls := s.calls ++ [.waiting line]
        said := s.said ++ [line] }
  | .stamp k =>
      (s.calls[k]?).bind fun call =>
        match call.stamp with
        | none => some { s with calls := s.calls.set k ⟨call.line, some s.host.clock⟩ }
        | some _ => none
  | .record k =>
      (s.calls[k]?).bind fun call =>
        call.stamp.map fun now =>
          { s with calls := s.calls.eraseIdx k }.record toString logger (call.line.entry now)

end LoggingHost

/-- The log of a host with its own configuration, from an empty log directory on. -/
def logSystem (toString : Json → Option String) (maxBytes retainedFiles : Nat)
    (config : HostConfig) (faults : Nat → Option Nat) : System LoggingHost LogAct :=
  .ofNext
    (fun s => ∃ clock logger file disk,
      (HostLogger.new maxBytes retainedFiles).exec (.start .empty faults) =
        (.ok (logger, file), disk) ∧
      s = { host := .new clock, calls := [], logs := [], file, disk, recorded := [], said := [] })
    (LoggingHost.next toString ⟨max maxBytes 1, max retainedFiles 1⟩ config)

/-! ## the records that are logged -/

/-- What is logged of a hello whose device is inserted. -/
def Phase.inserted : Phase → List Line
  | .answered (some admission) _ => [pairingConsumed admission.label]
  | _ => []

/-- What is logged of the answer to a revocation. -/
def revocationLines (answer : String × Except ProtocolError DeviceSummaryDto) : List Line :=
  match answer.2 with
  | .ok _ => [deviceRevoked answer.1]
  | .error _ => []

namespace HostState

/-- The lines that the records of the host account for: one for every device inserted,
every pairing offered and every device revoked. -/
def audit (s : HostState) : List Line :=
  s.calls.flatMap (·.phase.inserted) ++ s.offers.map (fun offer => pairingCreated offer.label) ++
    s.revocations.flatMap revocationLines

section

variable {config : HostConfig} {s t : HostState} {a : Act}

/-- A call moves on. -/
theorem inserted_put {i : Nat} {call : Authentication} (phase : Phase)
    (hi : s.calls[i]? = some call) (hbefore : call.phase.inserted = []) :
    ((s.put i call phase).calls.flatMap (·.phase.inserted)).Perm
      (s.calls.flatMap (·.phase.inserted) ++ phase.inserted) := by
  obtain ⟨before, after, hcalls, hput⟩ := put_calls phase hi
  rw [hcalls, hput, List.flatMap_append, List.flatMap_append, List.flatMap_cons,
    List.flatMap_cons, hbefore, List.nil_append, List.append_assoc]
  exact List.perm_append_comm.append_left _

/-- A part of the audit with some lines more. -/
theorem audit_perm (calls offers revocations : List Line)
    (hcalls : (t.calls.flatMap (·.phase.inserted)).Perm
      (s.calls.flatMap (·.phase.inserted) ++ calls))
    (hoffers : t.offers.map (fun offer => pairingCreated offer.label) =
      s.offers.map (fun offer => pairingCreated offer.label) ++ offers)
    (hrevocations : t.revocations.flatMap revocationLines =
      s.revocations.flatMap revocationLines ++ revocations) :
    t.audit.Perm (s.audit ++ (calls ++ offers ++ revocations)) := by
  rw [List.perm_iff_count]
  intro line
  have hcount := hcalls.count_eq line
  rw [List.count_append] at hcount
  rw [audit, audit, hoffers, hrevocations]
  simp only [List.count_append]
  omega

/-- A step that only moves a call on. -/
theorem audit_of_calls {lines : List Line}
    (hcalls : (t.calls.flatMap (·.phase.inserted)).Perm
      (s.calls.flatMap (·.phase.inserted) ++ lines))
    (hoffers : t.offers = s.offers) (hrevocations : t.revocations = s.revocations) :
    t.audit.Perm (s.audit ++ lines) := by
  have h := audit_perm lines [] [] hcalls
    (by rw [hoffers, List.append_nil]) (by rw [hrevocations, List.append_nil])
  rwa [List.append_nil, List.append_nil] at h

theorem audit_put {i : Nat} {call : Authentication} (phase : Phase)
    (hi : s.calls[i]? = some call) (hbefore : call.phase.inserted = [])
    (hcalls : t.calls = (s.put i call phase).calls) (hoffers : t.offers = s.offers)
    (hrevocations : t.revocations = s.revocations) :
    t.audit.Perm (s.audit ++ phase.inserted) := by
  refine audit_of_calls ?_ hoffers hrevocations
  rw [hcalls]
  exact inserted_put phase hi hbefore

/-- **Every section** logs what it does to the records. -/
theorem audit_next (ht : next config s a = some t) : t.audit.Perm (s.audit ++ s.noted a) := by
  have hsame : ∀ t : HostState, t.calls = s.calls → t.offers = s.offers →
      t.revocations = s.revocations → t.audit.Perm (s.audit ++ []) := by
    intro t hcalls hoffers hrevocations
    refine audit_of_calls ?_ hoffers hrevocations
    rw [hcalls, List.append_nil]
  cases a with
  | tick now =>
      rw [next] at ht
      split at ht
      · rw [← Option.some.inj ht]
        exact hsame _ rfl rfl rfl
      · cases ht
  | setListener listener =>
      rw [← Option.some.inj ht]
      exact hsame _ rfl rfl rfl
  | receive hello =>
      rw [← Option.some.inj ht]
      refine audit_of_calls ?_ rfl rfl
      rw [receive, List.flatMap_append, List.flatMap_singleton]
      split
      · exact .refl _
      · exact .refl _
  | readClock i =>
      obtain ⟨call, hi, ht⟩ := Option.bind_eq_some_iff.mp ht
      split at ht
      · next hphase =>
          rw [← Option.some.inj ht]
          exact audit_put _ hi (by rw [hphase]; rfl) rfl rfl rfl
      · next hphase =>
          rw [← Option.some.inj ht]
          exact audit_put _ hi (by rw [hphase]; rfl) rfl rfl rfl
      · cases ht
  | takePairing i choice =>
      obtain ⟨call, hi, ht⟩ := Option.bind_eq_some_iff.mp ht
      split at ht
      · next hphase _ =>
          obtain ⟨pairing, -, ht⟩ := Option.bind_eq_some_iff.mp ht
          split at ht
          · rw [← Option.some.inj ht]
            exact audit_put _ hi (by rw [hphase]; rfl) rfl rfl rfl
          · cases ht
      · next hphase _ =>
          split at ht
          · cases ht
          · rw [← Option.some.inj ht]
            exact audit_put _ hi (by rw [hphase]; rfl) rfl rfl rfl
      · cases ht
  | register i deviceUuid tokenUuid =>
      obtain ⟨call, admission, now, device, context, hi, hphase, -, -, rfl⟩ := register_cases ht
      have hnoted : s.noted (.register i deviceUuid tokenUuid) =
          (Phase.answered (some admission) (.ok context)).inserted := by
        rw [noted, hi, Option.toList_some, List.flatMap_singleton, hphase]
        rfl
      rw [hnoted]
      exact audit_put _ hi (by rw [hphase]; rfl) rfl rfl rfl
  | findDevice i choice =>
      obtain ⟨call, hi, ht⟩ := Option.bind_eq_some_iff.mp ht
      split at ht
      · next hphase _ =>
          obtain ⟨device, -, ht⟩ := Option.bind_eq_some_iff.mp ht
          split at ht
          · rw [← Option.some.inj ht]
            exact audit_put _ hi (by rw [hphase]; rfl) rfl rfl rfl
          · cases ht
      · next hphase _ =>
          split at ht
          · cases ht
          · rw [← Option.some.inj ht]
            exact audit_put _ hi (by rw [hphase]; rfl) rfl rfl rfl
      · cases ht
  | beginPairing label =>
      rw [← Option.some.inj ht]
      exact hsame _ rfl rfl rfl
  | insertPairing k idUuid codeUuid =>
      obtain ⟨creation, hk, ht⟩ := Option.map_eq_some_iff.mp ht
      have hnoted : s.noted (.insertPairing k idUuid codeUuid) = [pairingCreated creation.label] := by
        rw [noted, hk]
        rfl
      rw [hnoted, ← ht]
      refine audit_perm [] [pairingCreated creation.label] [] ?_ ?_ ?_
      · rw [List.append_nil]
      · rw [List.map_append, List.map_singleton]
      · rw [List.append_nil]
  | revokeDevice deviceId =>
      rw [← Option.some.inj ht, noted, revokeDevice]
      cases hfind : s.devices.find? (·.deviceId == deviceId) with
      | none =>
          refine audit_perm [] [] [] ?_ ?_ ?_
          · rw [List.append_nil]
          · rw [List.append_nil]
          · rw [List.flatMap_append, List.flatMap_singleton]
            rfl
      | some device =>
          refine audit_perm [] [] [deviceRevoked deviceId] ?_ ?_ ?_
          · rw [List.append_nil]
          · rw [List.append_nil]
          · rw [List.flatMap_append, List.flatMap_singleton]
            rfl

end

end HostState

/-! ## the ring and the files -/

theorem pushLog_rtake (recorded : List LogEntryDto) (entry : LogEntryDto) :
    pushLog (recorded.rtake logLimit) entry = (recorded ++ [entry]).rtake logLimit :=
  rtake_append_singleton recorded entry logLimit

/-- A write always comes back with a file state, whatever fails. -/
theorem completes_write (toString : Json → Option String) (logger : HostLogger)
    (state : FileState) (entry : LogEntryDto) :
    (logger.write toString state entry).Completes fun _ : Disk String => True := by
  have hattempt : ∀ {β : Type} (m : FileProgram String β),
      m.attempt.Completes fun _ : Disk String => True :=
    fun m => completes_attempt fun _ _ => trivial
  unfold HostLogger.write
  split
  · exact completes_pure _
  · refine completes_bind ?_ fun room => ?_
    · unfold HostLogger.makeRoom
      split
      · exact completes_bind (hattempt _) fun _ => completes_pure _
      · exact completes_pure _
    · cases room with
      | none => exact completes_pure _
      | some state =>
          refine completes_bind (hattempt _) fun outcome => ?_
          cases outcome with
          | ok _ => exact completes_bind (hattempt _) fun _ => completes_pure _
          | error _ => exact completes_pure _

namespace LoggingHost

/-- The state of the log, after what it was given. -/
structure Accounts (s : LoggingHost) (toString : Json → Option String)
    (maxBytes retainedFiles : Nat) (faults : Nat → Option Nat) : Prop where
  ring : s.logs = s.recorded.rtake logLimit
  files : (HostLogger.session toString maxBytes retainedFiles s.recorded).exec
    (.start .empty faults) = (.ok s.file, s.disk)
  lines : (s.recorded.map entryLine ++ s.calls.map (·.line)).Perm (s.host.audit ++ s.said)

section

variable {s t : LoggingHost} {toString : Json → Option String} {maxBytes retainedFiles : Nat}
  {faults : Nat → Option Nat} {config : HostConfig}

/-- One more write of a logger's session. -/
theorem exec_session_concat {entries : List LogEntryDto} {file : FileState} {disk : Disk String}
    (h : (HostLogger.session toString maxBytes retainedFiles entries).exec (.start .empty faults) =
      (.ok file, disk)) (entry : LogEntryDto) :
    (HostLogger.session toString maxBytes retainedFiles (entries ++ [entry])).exec
        (.start .empty faults) =
      (HostLogger.write toString ⟨max maxBytes 1, max retainedFiles 1⟩ file entry).exec disk := by
  have hsession : HostLogger.session toString maxBytes retainedFiles (entries ++ [entry]) =
      HostLogger.session toString maxBytes retainedFiles entries >>= fun file =>
        HostLogger.write toString ⟨max maxBytes 1, max retainedFiles 1⟩ file entry := by
    rw [HostLogger.session_eq, HostLogger.session_eq]
    simp only [bind_assoc, List.foldlM_append, List.foldlM_cons, List.foldlM_nil, bind_pure]
  rw [hsession, exec_bind, h]

theorem Accounts.record (h : s.Accounts toString maxBytes retainedFiles faults) {k : Nat}
    {call : LogCall} (hk : s.calls[k]? = some call) (now : Int) :
    ({ s with calls := s.calls.eraseIdx k }.record toString
      ⟨max maxBytes 1, max retainedFiles 1⟩ (call.line.entry now)).Accounts toString maxBytes
        retainedFiles faults := by
  obtain ⟨file, disk, hwrite, -⟩ := completes_write toString
    ⟨max maxBytes 1, max retainedFiles 1⟩ s.file (call.line.entry now) s.disk trivial
  have hrecord : { s with calls := s.calls.eraseIdx k }.record toString
      ⟨max maxBytes 1, max retainedFiles 1⟩ (call.line.entry now) =
        { s with
          calls := s.calls.eraseIdx k
          logs := pushLog s.logs (call.line.entry now)
          file
          disk
          recorded := s.recorded ++ [call.line.entry now] } := by
    rw [LoggingHost.record, hwrite]
    rfl
  have hring : pushLog s.logs (call.line.entry now) =
      (s.recorded ++ [call.line.entry now]).rtake logLimit := by
    rw [h.ring, pushLog_rtake]
  rw [hrecord]
  constructor
  · dsimp only
    exact hring
  · exact (exec_session_concat h.files _).trans hwrite
  · refine List.Perm.trans ?_ h.lines
    obtain ⟨hlt, hcall⟩ := List.getElem?_eq_some_iff.mp hk
    have hsplit : (call.line :: (s.calls.eraseIdx k).map (·.line)).Perm
        (s.calls.map (·.line)) := by
      rw [← hcall]
      exact (List.getElem_cons_eraseIdx_perm hlt).map _
    rw [List.map_append, List.map_singleton, List.append_assoc]
    exact hsplit.append_left _

/-- The host goes on, and some lines are to be logged. -/
theorem Accounts.say (h : s.Accounts toString maxBytes retainedFiles faults) {host : HostState}
    {noted said : List Line} (haudit : host.audit.Perm (s.host.audit ++ noted))
    (hlogs : t.logs = s.logs) (hfile : t.file = s.file) (hdisk : t.disk = s.disk)
    (hrecorded : t.recorded = s.recorded) (hhost : t.host = host)
    (hcalls : t.calls.map (·.line) = s.calls.map (·.line) ++ (noted ++ said))
    (hsaid : t.said = s.said ++ said) :
    t.Accounts toString maxBytes retainedFiles faults := by
  constructor
  · rw [hlogs, hrecorded]
    exact h.ring
  · rw [hrecorded, hfile, hdisk]
    exact h.files
  · rw [hrecorded, hcalls, hhost, hsaid, List.perm_iff_count]
    intro line
    have hbefore := h.lines.count_eq line
    have hafter := haudit.count_eq line
    simp only [List.count_append] at hbefore hafter ⊢
    omega

theorem map_waiting (lines : List Line) :
    (lines.map LogCall.waiting).map (·.line) = lines := by
  rw [List.map_map]
  exact List.map_id lines

/-- A call of `log` that has read the clock is about the same line. -/
theorem map_line_set {calls : List LogCall} {k : Nat} {call : LogCall} (hk : calls[k]? = some call)
    (stamp : Option Int) :
    (calls.set k ⟨call.line, stamp⟩).map (·.line) = calls.map (·.line) := by
  obtain ⟨before, after, hcalls, hset⟩ := set_split hk ⟨call.line, stamp⟩
  rw [hset, hcalls, List.map_append, List.map_append, List.map_cons, List.map_cons]

/-- **Every step** keeps the accounts. -/
theorem Accounts.next (h : s.Accounts toString maxBytes retainedFiles faults) {act : LogAct}
    (hnext : LoggingHost.next toString ⟨max maxBytes 1, max retainedFiles 1⟩ config s act = some t) :
    t.Accounts toString maxBytes retainedFiles faults := by
  cases act with
  | host act =>
      obtain ⟨host, hhost, rfl⟩ := Option.map_eq_some_iff.mp hnext
      refine h.say (HostState.audit_next hhost) rfl rfl rfl rfl rfl ?_ rfl
      rw [List.map_append, map_waiting]
  | say line =>
      rw [← Option.some.inj hnext]
      have haudit : s.host.audit.Perm (s.host.audit ++ []) := .of_eq (List.append_nil _).symm
      refine h.say haudit rfl rfl rfl rfl rfl ?_ rfl
      rw [List.map_append, List.map_singleton, List.nil_append]
      rfl
  | stamp k =>
      obtain ⟨call, hk, hnext⟩ := Option.bind_eq_some_iff.mp hnext
      split at hnext
      · rw [← Option.some.inj hnext]
        refine { h with lines := ?_ }
        rw [map_line_set hk]
        exact h.lines
      · cases hnext
  | record k =>
      obtain ⟨call, hk, hnext⟩ := Option.bind_eq_some_iff.mp hnext
      obtain ⟨now, -, rfl⟩ := Option.map_eq_some_iff.mp hnext
      exact h.record hk now

/-- A host starts with an empty log. -/
theorem Accounts.start {clock : Int} {logger : HostLogger} {file : FileState} {disk : Disk String}
    (hnew : (HostLogger.new maxBytes retainedFiles).exec (.start .empty faults) =
      (.ok (logger, file), disk)) :
    ({ host := .new clock, calls := [], logs := [], file, disk, recorded := [], said := [] } :
      LoggingHost).Accounts toString maxBytes retainedFiles faults := by
  refine ⟨(List.rtake_nil logLimit).symm, ?_, .refl _⟩
  rw [HostLogger.session, exec_bind, hnew]
  rfl

end

end LoggingHost

/-- What `texts` makes of the last entries are the last of its lines. -/
theorem texts_suffix {entries more : List LogEntryDto} (toString : Json → Option String)
    (h : entries <:+ more) :
    HostLogger.texts toString entries <:+ HostLogger.texts toString more := by
  obtain ⟨front, rfl⟩ := h
  rw [HostLogger.texts, HostLogger.texts, List.filterMap_append]
  exact List.suffix_append _ _

/-- **The log accounts for the host**, in every interleaving: the ring holds the last entries
recorded; if no file operation failed the files hold the last lines too, so that one of the two
continues the other backwards; and what was recorded or still waits is one line for every device
inserted, pairing offered and device revoked, and what else was said. -/
theorem log_accounts {toString : Json → Option String} {maxBytes retainedFiles : Nat}
    {config : HostConfig} {faults : Nat → Option Nat} {s : LoggingHost}
    (h : (logSystem toString maxBytes retainedFiles config faults).Reachable s) :
    s.logs = s.recorded.rtake logLimit ∧
      (s.recorded.map entryLine ++ s.calls.map (·.line)).Perm (s.host.audit ++ s.said) ∧
      (s.disk.failures = 0 → ∃ files : List (List String),
        (∀ index, s.disk.directory.content (logPath index) =
          files[index]?.map (List.flatMap logLine)) ∧
        files.reverse.flatten <:+ HostLogger.texts toString s.recorded ∧
        (files.reverse.flatten <:+ HostLogger.texts toString s.logs ∨
          HostLogger.texts toString s.logs <:+ files.reverse.flatten)) := by
  have haccounts : s.Accounts toString maxBytes retainedFiles faults := by
    refine System.invariant_of_step
      (I := fun s => s.Accounts toString maxBytes retainedFiles faults)
      (fun s hinit => ?_) (fun _ _ _ hbefore _ hnext => hbefore.next hnext) h
    obtain ⟨clock, logger, file, disk, hnew, rfl⟩ := hinit
    exact .start hnew
  refine ⟨haccounts.ring, haccounts.lines, fun hclean => ?_⟩
  have hfinal : ((HostLogger.session toString maxBytes retainedFiles s.recorded).final
      (.start .empty faults)) = s.disk := by
    rw [final, haccounts.files]
  obtain ⟨state, disk, hexec, hrepresents⟩ := HostLogger.ensures_session toString maxBytes
    retainedFiles s.recorded faults (by rw [hfinal]; exact hclean)
  have hdisk : disk = s.disk := by
    rw [haccounts.files] at hexec
    exact (congrArg Prod.snd hexec).symm
  rw [hdisk] at hrepresents
  have hring : HostLogger.texts toString s.logs <:+ HostLogger.texts toString s.recorded := by
    rw [haccounts.ring]
    exact texts_suffix toString (rtake_suffix _ _)
  exact ⟨_, hrepresents.files, Rolling.items_foldl_start length_logLine_pos _ _,
    List.suffix_or_suffix_of_suffix (Rolling.items_foldl_start length_logLine_pos _ _) hring⟩

/-! ## a pairing is logged -/

/-- A host with an empty log, in a directory without faults. -/
def sampleLogging : LoggingHost where
  host := .new 0
  calls := []
  logs := []
  file := ((((HostLogger.new 4096 2).result (.start .empty fun _ => none)).toOption).map (·.2)).getD
    ⟨0, 0⟩
  disk := (HostLogger.new 4096 2).final (.start .empty fun _ => none)
  recorded := []
  said := []

/-- A code is begun while another line waits for the lock. -/
def sampleLogActs : List LogAct :=
  [.say (info "listening"), .host (.beginPairing "Phone"),
    .host (.insertPairing 0 (sampleUuid 1) (sampleUuid 2)), .stamp 1, .record 1]

/-- The ring has the pairing; the other line still waits. -/
theorem log_accounts_sample :
    ∃ s : LoggingHost, s.logs.map entryLine = [pairingCreated "Phone"] ∧
      s.calls.map (·.line) = [info "listening"] ∧
      (s.recorded.map entryLine ++ s.calls.map (·.line)).Perm (s.host.audit ++ s.said) := by
  have hruns : (System.runs (LoggingHost.next (fun _ => some "entry") ⟨4096, 2⟩ sampleConfig)
      sampleLogging sampleLogActs).map (fun s => (s.logs.map entryLine, s.calls.map (·.line))) =
        some ([pairingCreated "Phone"], [info "listening"]) := by
    decide +kernel
  obtain ⟨s, hs, hwatch⟩ := Option.map_eq_some_iff.mp hruns
  obtain ⟨hlogs, hcalls⟩ := Prod.mk.inj hwatch
  have hreach : (logSystem (fun _ => some "entry") 4096 2 sampleConfig fun _ => none).Reachable s :=
    System.reachable_of_runs sampleLogActs ⟨0, ⟨4096, 2⟩, _, _, rfl, rfl⟩ hs
  exact ⟨s, hlogs, hcalls, (log_accounts hreach).2.1⟩

end HostService

end Slight
