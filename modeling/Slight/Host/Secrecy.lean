import Slight.Host.Auditing
import Slight.Support.Runs

/-!
# Slight.Host.Secrecy

The tokens of the devices.  A token is drawn when a device is inserted, and nothing but the
search for a credential ever reads it.  Two runs that differ in the tokens they draw are the
same, but for the tokens, as long as no hello presents one.
-/

namespace Slight

namespace HostService

open Gateway Support

/-! ## the host without its tokens -/

def DeviceRecord.withoutToken (device : DeviceRecord) : DeviceRecord := { device with token := "" }

def HostState.withoutTokens (s : HostState) : HostState :=
  { s with devices := s.devices.map DeviceRecord.withoutToken }

/-- All there is of a host and its log, but for the tokens. -/
def LoggingHost.withoutTokens (s : LoggingHost) : LoggingHost :=
  { s with host := s.host.withoutTokens }

/-- The act, or the insertion of the same device with another token. -/
inductive Act.Redraws : Act → Act → Prop
  | same (act : Act) : Redraws act act
  | token (i : Nat) (deviceUuid tokenUuid tokenUuid' : Uuid) :
      Redraws (.register i deviceUuid tokenUuid) (.register i deviceUuid tokenUuid')

inductive LogAct.Redraws : LogAct → LogAct → Prop
  | host {act act' : Act} (h : act.Redraws act') : Redraws (.host act) (.host act')
  | say (line : Line) : Redraws (.say line) (.say line)
  | stamp (k : Nat) : Redraws (.stamp k) (.stamp k)
  | record (k : Nat) : Redraws (.record k) (.record k)

/-- The token that is drawn. -/
def Act.token? : Act → Option String
  | .register _ _ tokenUuid => some tokenUuid.toString
  | _ => none

/-- The credential that is presented. -/
def Act.credential? : Act → Option String
  | .receive hello => some (hello.credential.getD "")
  | _ => none

def LogAct.act? : LogAct → Option Act
  | .host act => some act
  | _ => none

/-- The tokens that are drawn in a run. -/
def drawn (acts : List LogAct) : List String := (acts.filterMap LogAct.act?).filterMap Act.token?

/-- The credentials that are presented in a run. -/
def presented (acts : List LogAct) : List String :=
  (acts.filterMap LogAct.act?).filterMap Act.credential?

/-! ## the same host with other tokens -/

/-- The devices are those of the host with other tokens, and no call presents a token of the
ones or the others. -/
structure Masks (guesses tokens tokens' : List String) (s : HostState)
    (devices : List DeviceRecord) : Prop where
  same : devices.map DeviceRecord.withoutToken = s.devices.map DeviceRecord.withoutToken
  credentials : ∀ call ∈ s.calls, call.credential ∈ guesses
  tokens : ∀ device ∈ s.devices, device.token ∈ tokens
  others : ∀ device ∈ devices, device.token ∈ tokens'

/-- Two hosts that differ in their tokens. -/
def HostState.Alike (guesses tokens tokens' : List String) (s s' : HostState) : Prop :=
  ∃ devices, s' = { s with devices } ∧ Masks guesses tokens tokens' s devices

namespace Masks

variable {guesses tokens tokens' : List String} {s t : HostState} {devices : List DeviceRecord}

/-- The devices stay, and no other credential is presented. -/
theorem frame (h : Masks guesses tokens tokens' s devices) (hdevices : t.devices = s.devices)
    (hcalls : ∀ call ∈ t.calls, call.credential ∈ guesses) :
    Masks guesses tokens tokens' t devices := by
  refine ⟨?_, hcalls, ?_, h.others⟩
  · rw [hdevices]
    exact h.same
  · rw [hdevices]
    exact h.tokens

theorem credentials_put (h : Masks guesses tokens tokens' s devices) {i : Nat}
    {call : Authentication} (hi : s.calls[i]? = some call) (phase : Phase) :
    ∀ other ∈ (s.put i call phase).calls, other.credential ∈ guesses := by
  intro other hother
  rcases HostState.mem_put_calls hother with hmem | rfl
  · exact h.credentials other hmem
  · exact h.credentials call (List.mem_of_getElem? hi)

/-- A call moves on. -/
theorem put (h : Masks guesses tokens tokens' s devices) {i : Nat} {call : Authentication}
    (hi : s.calls[i]? = some call) (phase : Phase) :
    Masks guesses tokens tokens' (s.put i call phase) devices :=
  h.frame rfl (h.credentials_put hi phase)

/-- What a device is found by is not its token. -/
theorem find_deviceId (h : Masks guesses tokens tokens' s devices) (deviceId : String) :
    (devices.find? (·.deviceId == deviceId)).map DeviceRecord.withoutToken =
      (s.devices.find? (·.deviceId == deviceId)).map DeviceRecord.withoutToken := by
  have hfind : ∀ devices : List DeviceRecord,
      (devices.find? (·.deviceId == deviceId)).map DeviceRecord.withoutToken =
        (devices.map DeviceRecord.withoutToken).find? (·.deviceId == deviceId) := by
    intro devices
    rw [List.find?_map]
    rfl
  rw [hfind, hfind, h.same]

/-- No call finds a device. -/
theorem accepts_eq_false (h : Masks guesses tokens tokens' s devices)
    (hdisjoint : ∀ guess ∈ guesses, guess ∉ tokens) {call : Authentication}
    (hcall : call ∈ s.calls) {device : DeviceRecord} (hdevice : device ∈ s.devices) :
    device.accepts call.credential = false := by
  have hne : device.token ≠ call.credential := by
    intro heq
    exact hdisjoint _ (h.credentials call hcall) (heq ▸ h.tokens device hdevice)
  rw [DeviceRecord.accepts, beq_eq_false_iff_ne.mpr hne, Bool.false_and]

/-! ## sections -/

theorem readClock (h : Masks guesses tokens tokens' s devices) (i : Nat) :
    Option.Rel (HostState.Alike guesses tokens tokens') (s.readClock i)
      ({ s with devices }.readClock i) := by
  unfold HostState.readClock
  dsimp only
  cases hi : s.calls[i]? with
  | none => exact .none
  | some call =>
      rw [Option.bind_some, Option.bind_some]
      cases call.phase with
      | received => exact .some ⟨devices, rfl, h.put hi _⟩
      | paired admission => exact .some ⟨devices, rfl, h.put hi _⟩
      | _ => exact .none

theorem takePairing (h : Masks guesses tokens tokens' s devices) (i : Nat) (choice : Option Nat) :
    Option.Rel (HostState.Alike guesses tokens tokens') (s.takePairing i choice)
      ({ s with devices }.takePairing i choice) := by
  unfold HostState.takePairing
  dsimp only
  cases hi : s.calls[i]? with
  | none => exact .none
  | some call =>
      rw [Option.bind_some, Option.bind_some]
      cases call.phase with
      | timed now =>
          cases choice with
          | some k =>
              dsimp only
              cases s.pairings[k]? with
              | none => exact .none
              | some pairing =>
                  rw [Option.bind_some, Option.bind_some]
                  by_cases hadmits : pairing.admits call.credential now = true
                  · rw [if_pos hadmits, if_pos hadmits]
                    exact .some ⟨devices, rfl, h.frame rfl (h.credentials_put hi _)⟩
                  · rw [if_neg hadmits, if_neg hadmits]
                    exact .none
          | none =>
              dsimp only
              by_cases hany : s.pairings.any (·.admits call.credential now) = true
              · rw [if_pos hany, if_pos hany]
                exact .none
              · rw [if_neg hany, if_neg hany]
                exact .some ⟨devices, rfl, h.put hi _⟩
      | _ => exact .none

/-- A device is inserted, with one token or another. -/
theorem register (h : Masks guesses tokens tokens' s devices) (i : Nat)
    (deviceUuid : Uuid) {tokenUuid tokenUuid' : Uuid} (htoken : tokenUuid.toString ∈ tokens)
    (htoken' : tokenUuid'.toString ∈ tokens') :
    Option.Rel (HostState.Alike guesses tokens tokens') (s.register i deviceUuid tokenUuid)
      ({ s with devices }.register i deviceUuid tokenUuid') := by
  unfold HostState.register
  dsimp only
  cases hi : s.calls[i]? with
  | none => exact .none
  | some call =>
      rw [Option.bind_some, Option.bind_some]
      cases call.phase with
      | registering admission now =>
          refine .some ⟨_, rfl, ?_, h.credentials_put hi _, fun device hmem => ?_,
            fun device hmem => ?_⟩
          · have hfilter : ∀ devices : List DeviceRecord,
                (devices.filter (·.deviceId ≠ "device-" ++ deviceUuid.toString)).map
                    DeviceRecord.withoutToken =
                  (devices.map DeviceRecord.withoutToken).filter
                    (·.deviceId ≠ "device-" ++ deviceUuid.toString) := by
              intro devices
              rw [List.filter_map]
              rfl
            rw [List.map_append, List.map_append, hfilter, hfilter, h.same]
            rfl
          · rcases List.mem_append.mp hmem with hmem | hmem
            · exact h.tokens device (List.mem_filter.mp hmem).1
            · rw [List.mem_singleton.mp hmem]
              exact htoken
          · rcases List.mem_append.mp hmem with hmem | hmem
            · exact h.others device (List.mem_filter.mp hmem).1
            · rw [List.mem_singleton.mp hmem]
              exact htoken'
      | _ => exact .none

/-- A credential that is no token finds no device. -/
theorem findDevice (h : Masks guesses tokens tokens' s devices)
    (hdisjoint : ∀ guess ∈ guesses, guess ∉ tokens)
    (hdisjoint' : ∀ guess ∈ guesses, guess ∉ tokens') (config : HostConfig) (i : Nat)
    (choice : Option Nat) :
    Option.Rel (HostState.Alike guesses tokens tokens') (s.findDevice config i choice)
      ({ s with devices }.findDevice config i choice) := by
  unfold HostState.findDevice
  dsimp only
  cases hi : s.calls[i]? with
  | none => exact .none
  | some call =>
      have hrefused : ∀ device ∈ s.devices, device.accepts call.credential = false :=
        fun device hmem => h.accepts_eq_false hdisjoint (List.mem_of_getElem? hi) hmem
      have hrefused' : ∀ device ∈ devices, device.accepts call.credential = false := by
        intro device hmem
        have hmask : Masks guesses tokens' tokens { s with devices } s.devices :=
          ⟨h.same.symm, h.credentials, h.others, h.tokens⟩
        exact hmask.accepts_eq_false hdisjoint' (List.mem_of_getElem? hi) hmem
      rw [Option.bind_some, Option.bind_some]
      cases call.phase with
      | unpaired =>
          cases choice with
          | some k =>
              have hnone : ∀ (found : List DeviceRecord) (answer : DeviceRecord → HostState),
                  (∀ device ∈ found, device.accepts call.credential = false) →
                    (found[k]?.bind fun device =>
                      if device.accepts call.credential then some (answer device) else none) =
                        none := by
                intro found answer hfound
                refine Option.bind_eq_none_iff.mpr fun device hk => if_neg ?_
                rw [hfound device (List.mem_of_getElem? hk)]
                exact Bool.false_ne_true
              dsimp only
              rw [hnone s.devices _ hrefused, hnone devices _ hrefused']
              exact .none
          | none =>
              have hany : ∀ found : List DeviceRecord,
                  (∀ device ∈ found, device.accepts call.credential = false) →
                    ¬ found.any (·.accepts call.credential) = true := by
                intro found hfound hany
                obtain ⟨device, hmem, haccepts⟩ := List.any_eq_true.mp hany
                exact Bool.false_ne_true ((hfound device hmem).symm.trans haccepts)
              dsimp only
              rw [if_neg (hany s.devices hrefused), if_neg (hany devices hrefused')]
              exact .some ⟨devices, rfl, h.put hi _⟩
      | _ => exact .none

/-- A device is revoked by its id. -/
theorem revokeDevice (h : Masks guesses tokens tokens' s devices) (deviceId : String) :
    HostState.Alike guesses tokens tokens' (s.revokeDevice deviceId)
      ({ s with devices }.revokeDevice deviceId) := by
  have hfind := h.find_deviceId deviceId
  unfold HostState.revokeDevice
  dsimp only
  cases hdevice : s.devices.find? (·.deviceId == deviceId) with
  | none =>
      rw [hdevice, Option.map_none, Option.map_eq_none_iff] at hfind
      rw [hfind]
      exact ⟨devices, rfl, h.frame rfl h.credentials⟩
  | some device =>
      rw [hdevice, Option.map_some] at hfind
      obtain ⟨other, hother, hsame⟩ := Option.map_eq_some_iff.mp hfind
      have hdto : deviceDto { other with revoked := true } =
          deviceDto { device with revoked := true } := by
        have hmasked := congrArg
          (fun device : DeviceRecord => deviceDto { device with revoked := true }) hsame
        exact hmasked
      have hmap : ∀ found : List DeviceRecord,
          (found.map fun d => if d.deviceId = deviceId then { d with revoked := true } else d).map
              DeviceRecord.withoutToken =
            (found.map DeviceRecord.withoutToken).map fun d =>
              if d.deviceId = deviceId then { d with revoked := true } else d := by
        intro found
        rw [List.map_map, List.map_map]
        refine List.map_congr_left fun d _ => ?_
        show DeviceRecord.withoutToken (if d.deviceId = deviceId then _ else d) =
          if d.deviceId = deviceId then _ else d.withoutToken
        by_cases hid : d.deviceId = deviceId
        · rw [if_pos hid, if_pos hid]
          rfl
        · rw [if_neg hid, if_neg hid]
      have htoken : ∀ (found : List DeviceRecord) (tokens : List String),
          (∀ device ∈ found, device.token ∈ tokens) →
            ∀ device ∈ found.map fun d =>
              if d.deviceId = deviceId then { d with revoked := true } else d,
                device.token ∈ tokens := by
        intro found tokens hfound device hmem
        obtain ⟨d, hd, rfl⟩ := List.mem_map.mp hmem
        split
        · exact hfound d hd
        · exact hfound d hd
      rw [hother]
      dsimp only
      rw [hdto]
      refine ⟨_, rfl, ?_, h.credentials, htoken _ _ h.tokens, htoken _ _ h.others⟩
      rw [hmap, hmap, h.same]

end Masks

/-! ## runs -/

section

variable {guesses tokens tokens' : List String}

/-- **Every section** keeps two hosts alike that differ in their tokens. -/
theorem HostState.Alike.next {s s' : HostState} (h : s.Alike guesses tokens tokens' s')
    (config : HostConfig) (hdisjoint : ∀ guess ∈ guesses, guess ∉ tokens)
    (hdisjoint' : ∀ guess ∈ guesses, guess ∉ tokens') {act act' : Act}
    (hredraws : act.Redraws act') (hpresents : ∀ guess ∈ act.credential?, guess ∈ guesses)
    (hdraws : ∀ token ∈ act.token?, token ∈ tokens)
    (hdraws' : ∀ token ∈ act'.token?, token ∈ tokens') :
    Option.Rel (HostState.Alike guesses tokens tokens') (HostService.next config s act)
      (HostService.next config s' act') := by
  obtain ⟨devices, rfl, hmasks⟩ := h
  cases hredraws with
  | token i deviceUuid tokenUuid tokenUuid' =>
      exact hmasks.register i deviceUuid (hdraws _ rfl) (hdraws' _ rfl)
  | same =>
      cases act with
      | tick now =>
          unfold HostService.next
          dsimp only
          by_cases hclock : s.clock ≤ now
          · rw [if_pos hclock, if_pos hclock]
            exact .some ⟨devices, rfl, hmasks.frame rfl hmasks.credentials⟩
          · rw [if_neg hclock, if_neg hclock]
            exact .none
      | setListener listener => exact .some ⟨devices, rfl, hmasks.frame rfl hmasks.credentials⟩
      | receive hello =>
          refine .some ⟨devices, rfl, hmasks.frame rfl fun call hcall => ?_⟩
          rcases List.mem_append.mp hcall with hcall | hcall
          · exact hmasks.credentials call hcall
          · rw [List.mem_singleton.mp hcall]
            exact hpresents _ rfl
      | readClock i => exact hmasks.readClock i
      | takePairing i choice => exact hmasks.takePairing i choice
      | register i deviceUuid tokenUuid =>
          exact hmasks.register i deviceUuid (hdraws _ rfl) (hdraws' _ rfl)
      | findDevice i choice => exact hmasks.findDevice hdisjoint hdisjoint' config i choice
      | beginPairing label => exact .some ⟨devices, rfl, hmasks.frame rfl hmasks.credentials⟩
      | insertPairing k idUuid codeUuid =>
          unfold HostService.next HostState.insertPairing
          dsimp only
          cases s.creations[k]? with
          | none => exact .none
          | some creation => exact .some ⟨devices, rfl, hmasks.frame rfl hmasks.credentials⟩
      | revokeDevice deviceId => exact .some (hmasks.revokeDevice deviceId)

theorem lines_of_isSome (found : Option DeviceRecord) (line : Line) :
    (found.toList.map fun _ => line) = if found.isSome then [line] else [] := by
  cases found <;> rfl

/-- What is logged of an act is the same. -/
theorem HostState.Alike.lines {s s' : HostState} (h : s.Alike guesses tokens tokens' s')
    (config : HostConfig) {act act' : Act} (hredraws : act.Redraws act') :
    s'.noted act' = s.noted act ∧ s'.developed config act' = s.developed config act := by
  obtain ⟨devices, rfl, hmasks⟩ := h
  cases hredraws with
  | token i deviceUuid tokenUuid tokenUuid' => exact ⟨rfl, rfl⟩
  | same =>
      refine ⟨?_, ?_⟩
      · cases act with
        | revokeDevice deviceId =>
            have hfind := congrArg Option.isSome (hmasks.find_deviceId deviceId)
            rw [Option.isSome_map, Option.isSome_map] at hfind
            rw [noted, noted, lines_of_isSome, lines_of_isSome, hfind]
        | _ => rfl
      · cases act with
        | findDevice i choice => cases choice <;> rfl
        | _ => rfl

/-- Two hosts with their logs that differ in the tokens of the devices. -/
def LoggingHost.Alike (guesses tokens tokens' : List String) (s s' : LoggingHost) : Prop :=
  ∃ host, s' = { s with host } ∧ s.host.Alike guesses tokens tokens' host

theorem LoggingHost.Alike.withoutTokens {s s' : LoggingHost}
    (h : s.Alike guesses tokens tokens' s') : s.withoutTokens = s'.withoutTokens := by
  obtain ⟨host, rfl, devices, rfl, hmasks⟩ := h
  rw [LoggingHost.withoutTokens, LoggingHost.withoutTokens, HostState.withoutTokens,
    HostState.withoutTokens, hmasks.same]

/-- The ring and the files do not depend on the host. -/
theorem LoggingHost.record_host (s : LoggingHost) (toString : Json → Option String)
    (logger : HostLogger) (entry : LogEntryDto) (host : HostState) :
    { s with host }.record toString logger entry =
      { s.record toString logger entry with host } := by
  unfold LoggingHost.record
  dsimp only

/-- **Every step** keeps them alike. -/
theorem LoggingHost.Alike.next {toString : Json → Option String} {logger : HostLogger}
    {config : HostConfig} {s s' : LoggingHost} (h : s.Alike guesses tokens tokens' s')
    (hdisjoint : ∀ guess ∈ guesses, guess ∉ tokens)
    (hdisjoint' : ∀ guess ∈ guesses, guess ∉ tokens') {act act' : LogAct}
    (hredraws : act.Redraws act')
    (hpresents : ∀ guess ∈ act.act?.bind Act.credential?, guess ∈ guesses)
    (hdraws : ∀ token ∈ act.act?.bind Act.token?, token ∈ tokens)
    (hdraws' : ∀ token ∈ act'.act?.bind Act.token?, token ∈ tokens') :
    Option.Rel (LoggingHost.Alike guesses tokens tokens')
      (LoggingHost.next toString logger config s act)
      (LoggingHost.next toString logger config s' act') := by
  obtain ⟨host, rfl, hhost⟩ := h
  cases hredraws with
  | @host act act' hact =>
      have hrel := hhost.next config hdisjoint hdisjoint' hact hpresents hdraws hdraws'
      obtain ⟨hnoted, hdeveloped⟩ := hhost.lines config hact
      unfold LoggingHost.next
      dsimp only
      rw [hnoted, hdeveloped]
      generalize HostService.next config s.host act = x at hrel ⊢
      generalize HostService.next config host act' = y at hrel ⊢
      cases hrel with
      | some hnext => exact .some ⟨_, rfl, hnext⟩
      | none => exact .none
  | say line => exact .some ⟨host, rfl, hhost⟩
  | stamp k =>
      obtain ⟨devices, rfl, hmasks⟩ := hhost
      unfold LoggingHost.next
      dsimp only
      cases s.calls[k]? with
      | none => exact .none
      | some call =>
          rw [Option.bind_some, Option.bind_some]
          cases call.stamp with
          | none => exact .some ⟨_, rfl, devices, rfl, hmasks⟩
          | some _ => exact .none
  | record k =>
      unfold LoggingHost.next
      dsimp only
      cases s.calls[k]? with
      | none => exact .none
      | some call =>
          rw [Option.bind_some, Option.bind_some]
          cases call.stamp with
          | none => exact .none
          | some now =>
              rw [Option.map_some, Option.map_some]
              exact .some ⟨host, LoggingHost.record_host { s with calls := s.calls.eraseIdx k }
                toString logger (call.line.entry now) host, hhost⟩

end

/-- Two lists of acts, with what each of the acts draws and presents. -/
theorem redraws_members {acts acts' : List LogAct} (h : List.Forall₂ LogAct.Redraws acts acts') :
    List.Forall₂ (fun act act' => act.Redraws act' ∧
        (∀ guess ∈ act.act?.bind Act.credential?, guess ∈ presented acts) ∧
        (∀ token ∈ act.act?.bind Act.token?, token ∈ drawn acts) ∧
        ∀ token ∈ act'.act?.bind Act.token?, token ∈ drawn acts') acts acts' := by
  have hmember : ∀ {f : Act → Option String} {acts : List LogAct} {act : LogAct}, act ∈ acts →
      ∀ text ∈ act.act?.bind f, text ∈ (acts.filterMap LogAct.act?).filterMap f := by
    intro f acts act hmem text htext
    rw [List.filterMap_filterMap]
    exact List.mem_filterMap.mpr ⟨act, hmem, htext⟩
  refine List.forall₂_iff_get.mpr ⟨h.length_eq, fun i hi hi' => ?_⟩
  exact ⟨h.get hi hi', hmember (List.get_mem acts _), hmember (List.get_mem acts _),
    hmember (List.get_mem acts' _)⟩

/-- **The tokens of the devices are unobservable**: two runs whose acts differ only in the
tokens they draw end in the same host with the same log, but for the tokens, or are refused
both, if no hello presents a token that either of them draws. -/
theorem tokens_unobservable {toString : Json → Option String} {maxBytes retainedFiles : Nat}
    {config : HostConfig} {faults : Nat → Option Nat} {start : LoggingHost}
    (hstart : (logSystem toString maxBytes retainedFiles config faults).init start)
    {acts acts' : List LogAct} (hacts : List.Forall₂ LogAct.Redraws acts acts')
    (hsecret : ∀ guess ∈ presented acts, guess ∉ drawn acts)
    (hsecret' : ∀ guess ∈ presented acts, guess ∉ drawn acts') :
    (System.runs (LoggingHost.next toString ⟨max maxBytes 1, max retainedFiles 1⟩ config) start
        acts).map LoggingHost.withoutTokens =
      (System.runs (LoggingHost.next toString ⟨max maxBytes 1, max retainedFiles 1⟩ config) start
        acts').map LoggingHost.withoutTokens := by
  have halike : start.Alike (presented acts) (drawn acts) (drawn acts') start := by
    obtain ⟨clock, logger, file, disk, -, rfl⟩ := hstart
    exact ⟨_, rfl, [], rfl, rfl, fun _ h => absurd h List.not_mem_nil,
      fun _ h => absurd h List.not_mem_nil, fun _ h => absurd h List.not_mem_nil⟩
  refine System.map_eq_of_rel (fun _ _ h => LoggingHost.Alike.withoutTokens h)
    (System.runs_rel (I := LoggingHost.Alike (presented acts) (drawn acts) (drawn acts')) ?_
      (redraws_members hacts) halike)
  rintro s s' act act' hs ⟨hredraws, hpresents, hdraws, hdraws'⟩
  exact hs.next hsecret hsecret' hredraws hpresents hdraws hdraws'

/-! ## a device is paired twice -/

/-- A device is paired, with this token; then it presents its code again, and is revoked. -/
def samplePaired (tokenUuid : Uuid) : List LogAct :=
  [.host (.beginPairing "Phone"), .host (.insertPairing 0 (sampleUuid 1) (sampleUuid 2)),
    .host (.receive (sampleHello (generatePairingCode (sampleUuid 2)))), .host (.readClock 0),
    .host (.takePairing 0 (some 0)), .host (.readClock 0),
    .host (.register 0 (sampleUuid 3) tokenUuid), .stamp 0, .record 0,
    .host (.receive (sampleHello (generatePairingCode (sampleUuid 2)))), .host (.readClock 1),
    .host (.takePairing 1 none), .host (.findDevice 1 none),
    .host (.revokeDevice ("device-" ++ (sampleUuid 3).toString))]

/-- The run goes through with either token, and no one can tell which it was. -/
theorem tokens_unobservable_sample :
    (System.runs (LoggingHost.next (fun _ => some "entry") ⟨4096, 2⟩ sampleConfig) sampleLogging
        (samplePaired (sampleUuid 4))).isSome = true ∧
      (System.runs (LoggingHost.next (fun _ => some "entry") ⟨4096, 2⟩ sampleConfig) sampleLogging
          (samplePaired (sampleUuid 4))).map LoggingHost.withoutTokens =
        (System.runs (LoggingHost.next (fun _ => some "entry") ⟨4096, 2⟩ sampleConfig)
          sampleLogging (samplePaired (sampleUuid 5))).map LoggingHost.withoutTokens := by
  refine ⟨by decide +kernel, ?_⟩
  have hhost : ∀ act : Act, LogAct.Redraws (.host act) (.host act) := fun act => .host (.same act)
  have hstart : (logSystem (fun _ => some "entry") 4096 2 sampleConfig fun _ => none).init
      sampleLogging := ⟨0, ⟨4096, 2⟩, _, _, rfl, rfl⟩
  refine tokens_unobservable hstart ?_ (by decide +kernel) (by decide +kernel)
  exact .cons (hhost _) (.cons (hhost _) (.cons (hhost _) (.cons (hhost _) (.cons (hhost _)
    (.cons (hhost _) (.cons (.host (.token 0 _ _ _)) (.cons (.stamp 0) (.cons (.record 0)
      (.cons (hhost _) (.cons (hhost _) (.cons (hhost _) (.cons (hhost _) (.cons (hhost _)
        .nil)))))))))))))

end HostService

end Slight
