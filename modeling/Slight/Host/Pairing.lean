import Slight.Host.State
import Slight.Support.Lists

/-!
# Slight.Host.Pairing

What a code and a token are worth over a whole run of the host, with hellos,
pairings and revocations in any order.

A hello that consumed a pairing is an admission from that moment on, whether or
not its device is already recorded.  `Sound` counts both: the consumed pairings
are as many as the admissions, the devices as many as the admissions that are
registered.  Codes may coincide, so an admission is told by the id of its pairing.
-/

namespace Slight

namespace HostService

open Gateway Support

namespace HostState

/-- The admissions so far, in the order of the hellos. -/
def admissions (s : HostState) : List Admission := s.calls.filterMap (·.phase.admission?)

/-- What holds of the devices. -/
structure DevicesSound (s : HostState) : Prop where
  ids : (s.devices.map (·.deviceId)).Nodup
  tokens : (s.devices.map (·.token)).Nodup
  tokenLength : ∀ token ∈ s.devices.map (·.token), token.length = 36
  revoked : ∀ entry ∈ s.revocations, entry.2.toBool = true →
    ∃ device ∈ s.devices, device.deviceId = entry.1 ∧ device.revoked = true

/-- What holds of the pairings. -/
structure PairingsSound (s : HostState) : Prop where
  ids : (s.pairings.map (·.pairingId)).Nodup
  codeLength : ∀ pairing ∈ s.pairings, pairing.code.length = 6

/-- What holds of the calls. -/
structure CallsSound (s : HostState) : Prop where
  arrived : ∀ call ∈ s.calls, call.arrived ≤ s.clock
  timed : ∀ call ∈ s.calls, ∀ now, call.phase = .timed now → call.arrived ≤ now
  once : (s.admissions.map (·.pairingId)).Nodup
  admitted : ∀ call ∈ s.calls, ∀ admission, call.phase.admission? = some admission →
    call.arrived ≤ admission.now ∧ ∃ pairing ∈ s.pairings,
      pairing.pairingId = admission.pairingId ∧ pairing.consumed = true ∧
        pairing.code = call.credential ∧ admission.now ≤ pairing.expiresAtMs
  consumed : s.pairings.countP (·.consumed) = s.admissions.length
  registered : s.devices.length = s.calls.countP (·.phase.registered)

structure Sound (s : HostState) : Prop where
  devices : s.DevicesSound
  pairings : s.PairingsSound
  calls : s.CallsSound

/-! ## a call moves on -/

section Put

variable {s : HostState} {i : Nat} {call : Authentication} {phase : Phase}

@[simp] theorem put_clock : (s.put i call phase).clock = s.clock := rfl
@[simp] theorem put_devices : (s.put i call phase).devices = s.devices := rfl
@[simp] theorem put_pairings : (s.put i call phase).pairings = s.pairings := rfl
@[simp] theorem put_revocations : (s.put i call phase).revocations = s.revocations := rfl

theorem put_calls (phase : Phase) (h : s.calls[i]? = some call) :
    ∃ before after, s.calls = before ++ call :: after ∧
      (s.put i call phase).calls = before ++ { call with phase := phase } :: after :=
  set_split h _

theorem mem_put_calls {other : Authentication} (h : other ∈ (s.put i call phase).calls) :
    other ∈ s.calls ∨ other = { call with phase := phase } :=
  List.mem_or_eq_of_mem_set h

/-- The admissions change where the call stands. -/
theorem admissions_put (phase : Phase) (h : s.calls[i]? = some call) :
    ∃ before after, s.admissions = before ++ call.phase.admission?.toList ++ after ∧
      (s.put i call phase).admissions = before ++ phase.admission?.toList ++ after := by
  obtain ⟨before, after, hcalls, hput⟩ := put_calls phase h
  refine ⟨before.filterMap (·.phase.admission?), after.filterMap (·.phase.admission?), ?_, ?_⟩
  · rw [admissions, hcalls, List.filterMap_append, List.filterMap_cons]
    cases call.phase.admission? <;> simp
  · rw [admissions, hput, List.filterMap_append, List.filterMap_cons]
    cases phase.admission? <;> simp

theorem countP_put (phase : Phase) (h : s.calls[i]? = some call) :
    (s.put i call phase).calls.countP (·.phase.registered) + call.phase.registered.toNat =
      s.calls.countP (·.phase.registered) + phase.registered.toNat := by
  obtain ⟨before, after, hcalls, hput⟩ := put_calls phase h
  rw [hcalls, hput, List.countP_append, List.countP_append, List.countP_cons, List.countP_cons]
  cases call.phase.registered <;> cases phase.registered <;> simp <;> omega

end Put

/-! ## devices -/

section Devices

variable {s t : HostState}

theorem DevicesSound.frame (h : s.DevicesSound) (hdevices : t.devices = s.devices)
    (hrevocations : t.revocations = s.revocations) : t.DevicesSound where
  ids := hdevices ▸ h.ids
  tokens := hdevices ▸ h.tokens
  tokenLength := hdevices ▸ h.tokenLength
  revoked := by
    rw [hdevices, hrevocations]
    exact h.revoked

/-- A device is inserted under a fresh id and with a fresh token. -/
theorem DevicesSound.insert (h : s.DevicesSound) {device : DeviceRecord}
    (hfresh : ∀ other ∈ s.devices, other.deviceId ≠ device.deviceId ∧ other.token ≠ device.token)
    (hlength : device.token.length = 36) (hdevices : t.devices = s.devices ++ [device])
    (hrevocations : t.revocations = s.revocations) : t.DevicesSound where
  ids := by
    rw [hdevices, List.map_append, List.map_singleton]
    refine nodup_append_singleton h.ids fun hmem => ?_
    obtain ⟨other, hother, heq⟩ := List.mem_map.mp hmem
    exact (hfresh other hother).1 heq
  tokens := by
    rw [hdevices, List.map_append, List.map_singleton]
    refine nodup_append_singleton h.tokens fun hmem => ?_
    obtain ⟨other, hother, heq⟩ := List.mem_map.mp hmem
    exact (hfresh other hother).2 heq
  tokenLength := by
    intro token hmem
    rw [hdevices, List.map_append, List.map_singleton] at hmem
    rcases List.mem_append.mp hmem with hmem | hmem
    · exact h.tokenLength token hmem
    · rw [List.mem_singleton.mp hmem, hlength]
  revoked := by
    rw [hdevices, hrevocations]
    intro entry hentry hok
    obtain ⟨other, hother, hrevoked⟩ := h.revoked entry hentry hok
    exact ⟨other, List.mem_append_left _ hother, hrevoked⟩

/-- The devices keep their names and tokens, and a revoked one stays revoked. -/
def KeepsDevices (s t : HostState) : Prop :=
  ∀ device ∈ s.devices, ∃ other ∈ t.devices, other.deviceId = device.deviceId ∧
    other.token = device.token ∧ (device.revoked = true → other.revoked = true)

theorem KeepsDevices.of_eq (h : t.devices = s.devices) : KeepsDevices s t :=
  fun device hmem => ⟨device, h ▸ hmem, rfl, rfl, id⟩

theorem KeepsDevices.touch {k : Nat} {device : DeviceRecord} {now : Int}
    (hk : s.devices[k]? = some device)
    (hdevices : t.devices = s.devices.set k { device with lastSeenAtMs := now }) :
    KeepsDevices s t := by
  obtain ⟨before, after, hbefore, hafter⟩ := set_split hk { device with lastSeenAtMs := now }
  rw [← hdevices] at hafter
  intro other hother
  rw [hbefore] at hother
  rw [hafter]
  rcases List.mem_append.mp hother with hmem | hmem
  · exact ⟨other, List.mem_append_left _ hmem, rfl, rfl, id⟩
  · rcases List.mem_cons.mp hmem with rfl | hmem
    · exact ⟨{ other with lastSeenAtMs := now }, by simp, rfl, rfl, id⟩
    · exact ⟨other, by simp [hmem], rfl, rfl, id⟩

theorem KeepsDevices.revokeDevice (s : HostState) (deviceId : String) :
    KeepsDevices s (s.revokeDevice deviceId) := by
  unfold HostState.revokeDevice
  split
  · exact .of_eq rfl
  · intro other hother
    refine ⟨_, List.mem_map_of_mem hother, ?_⟩
    by_cases heq : other.deviceId = deviceId <;> simp [heq]

/-- Devices are updated in place; what is newly answered is so. -/
theorem DevicesSound.update (h : s.DevicesSound)
    (hids : t.devices.map (·.deviceId) = s.devices.map (·.deviceId))
    (htokens : t.devices.map (·.token) = s.devices.map (·.token))
    (hkeeps : KeepsDevices s t)
    (hanswered : ∀ entry ∈ t.revocations, entry.2.toBool = true → entry ∈ s.revocations ∨
      ∃ device ∈ t.devices, device.deviceId = entry.1 ∧ device.revoked = true) :
    t.DevicesSound where
  ids := hids ▸ h.ids
  tokens := htokens ▸ h.tokens
  tokenLength := htokens ▸ h.tokenLength
  revoked := by
    intro entry hentry hok
    rcases hanswered entry hentry hok with hentry | hnew
    · obtain ⟨device, hmem, hid, hflag⟩ := h.revoked entry hentry hok
      obtain ⟨other, hother, heq, -, hflags⟩ := hkeeps device hmem
      exact ⟨other, hother, heq.trans hid, hflags hflag⟩
    · exact hnew

/-- A device that was found is touched. -/
theorem DevicesSound.touch (h : s.DevicesSound) {k : Nat} {device : DeviceRecord} {now : Int}
    (hk : s.devices[k]? = some device)
    (hdevices : t.devices = s.devices.set k { device with lastSeenAtMs := now })
    (hrevocations : t.revocations = s.revocations) : t.DevicesSound := by
  obtain ⟨before, after, hbefore, hafter⟩ := set_split hk { device with lastSeenAtMs := now }
  rw [← hdevices] at hafter
  refine h.update ?_ ?_ (.touch hk hdevices) fun entry hentry _ => .inl (hrevocations ▸ hentry)
  · rw [hbefore, hafter, List.map_append, List.map_append, List.map_cons, List.map_cons]
  · rw [hbefore, hafter, List.map_append, List.map_append, List.map_cons, List.map_cons]

theorem DevicesSound.revokeDevice (h : s.DevicesSound) (deviceId : String) :
    (s.revokeDevice deviceId).DevicesSound := by
  have hkeeps := KeepsDevices.revokeDevice s deviceId
  unfold HostState.revokeDevice at hkeeps ⊢
  split at hkeeps
  · refine h.update rfl rfl hkeeps fun entry hentry hok => ?_
    rcases List.mem_append.mp hentry with hentry | hentry
    · exact .inl hentry
    · rw [List.mem_singleton.mp hentry] at hok
      contradiction
  · next device hfind =>
    have hmem : device ∈ s.devices := List.mem_of_find?_eq_some hfind
    have hid : device.deviceId = deviceId := by simpa using List.find?_some hfind
    refine h.update ?_ ?_ hkeeps fun entry hentry hok => ?_
    · rw [List.map_map]
      exact List.map_congr_left fun other _ => by
        by_cases heq : other.deviceId = deviceId <;> simp [heq]
    · rw [List.map_map]
      exact List.map_congr_left fun other _ => by
        by_cases heq : other.deviceId = deviceId <;> simp [heq]
    · rcases List.mem_append.mp hentry with hentry | hentry
      · exact .inl hentry
      · rw [List.mem_singleton.mp hentry]
        refine .inr ⟨_, List.mem_map_of_mem hmem, ?_⟩
        simp [hid]

end Devices

/-! ## pairings -/

section Pairings

variable {s t : HostState}

theorem PairingsSound.frame (h : s.PairingsSound) (hpairings : t.pairings = s.pairings) :
    t.PairingsSound where
  ids := hpairings ▸ h.ids
  codeLength := hpairings ▸ h.codeLength

theorem PairingsSound.insert (h : s.PairingsSound) {pairing : PairingRecord}
    (hfresh : ∀ other ∈ s.pairings, other.pairingId ≠ pairing.pairingId)
    (hlength : pairing.code.length = 6) (hpairings : t.pairings = s.pairings ++ [pairing]) :
    t.PairingsSound where
  ids := by
    rw [hpairings, List.map_append, List.map_singleton]
    refine nodup_append_singleton h.ids fun hmem => ?_
    obtain ⟨other, hother, heq⟩ := List.mem_map.mp hmem
    exact hfresh other hother heq
  codeLength := by
    intro other hmem
    rw [hpairings] at hmem
    rcases List.mem_append.mp hmem with hmem | hmem
    · exact h.codeLength other hmem
    · rw [List.mem_singleton.mp hmem, hlength]

theorem PairingsSound.consume (h : s.PairingsSound) {k : Nat} {pairing : PairingRecord}
    (hk : s.pairings[k]? = some pairing)
    (hpairings : t.pairings = s.pairings.set k { pairing with consumed := true }) :
    t.PairingsSound := by
  obtain ⟨before, after, hbefore, hafter⟩ := set_split hk { pairing with consumed := true }
  rw [← hpairings] at hafter
  have hids := h.ids
  have hcodes := h.codeLength
  rw [hbefore] at hids hcodes
  refine ⟨?_, ?_⟩
  · rw [hafter]
    simpa using hids
  · intro other hmem
    rw [hafter] at hmem
    rcases List.mem_append.mp hmem with hmem | hmem
    · exact hcodes other (List.mem_append_left _ hmem)
    · rcases List.mem_cons.mp hmem with rfl | hmem
      · exact hcodes pairing (by simp)
      · exact hcodes other (by simp [hmem])

end Pairings

/-! ## calls -/

section Calls

variable {s t : HostState} {i : Nat} {call : Authentication} {phase : Phase}

/-- The pairings keep what they are, or become consumed. -/
def KeepsPairings (s t : HostState) : Prop :=
  ∀ pairing ∈ s.pairings, ∃ other ∈ t.pairings, other.pairingId = pairing.pairingId ∧
    (pairing.consumed = true → other.consumed = true) ∧ other.code = pairing.code ∧
      other.expiresAtMs = pairing.expiresAtMs

/-- Nothing happens to the calls. -/
theorem CallsSound.frame (h : s.CallsSound) (hclock : s.clock ≤ t.clock)
    (hcalls : t.calls = s.calls) (hpairings : KeepsPairings s t)
    (hconsumed : t.pairings.countP (·.consumed) = s.pairings.countP (·.consumed))
    (hdevices : t.devices.length = s.devices.length) : t.CallsSound where
  arrived call hcall := (h.arrived call (hcalls ▸ hcall)).trans hclock
  timed := hcalls ▸ h.timed
  once := by
    rw [admissions, hcalls]
    exact h.once
  admitted := by
    intro call hcall admission hadmission
    rw [hcalls] at hcall
    obtain ⟨harrived, pairing, hmem, hid, hflag, hcode, hexpires⟩ :=
      h.admitted call hcall admission hadmission
    obtain ⟨other, hother, hids, hflags, hcodes, hsame⟩ := hpairings pairing hmem
    exact ⟨harrived, other, hother, hids.trans hid, hflags hflag, hcodes.trans hcode,
      hsame ▸ hexpires⟩
  consumed := by
    rw [hconsumed, h.consumed, admissions, admissions, hcalls]
  registered := by rw [hdevices, h.registered, hcalls]

/-- A call moves on without a pairing. -/
theorem CallsSound.move (h : s.CallsSound) (hi : s.calls[i]? = some call)
    (hclock : t.clock = s.clock) (hcalls : t.calls = (s.put i call phase).calls)
    (hpairings : t.pairings = s.pairings)
    (htimed : ∀ now, phase = .timed now → call.arrived ≤ now)
    (hadmission : phase.admission? = call.phase.admission?)
    (hdevices : t.devices.length + call.phase.registered.toNat =
      s.devices.length + phase.registered.toNat) : t.CallsSound := by
  have hcall : call ∈ s.calls := List.mem_of_getElem? hi
  have hadmissions : t.admissions = s.admissions := by
    obtain ⟨before, after, hs, hput⟩ := admissions_put phase hi
    rw [admissions, hcalls, ← admissions, hput, hs, hadmission]
  have hmem : ∀ other ∈ t.calls, other ∈ s.calls ∨ other = { call with phase := phase } :=
    fun other hother => mem_put_calls (hcalls ▸ hother)
  refine ⟨?_, ?_, hadmissions ▸ h.once, ?_, ?_, ?_⟩
  · intro other hother
    rw [hclock]
    rcases hmem other hother with hother | rfl
    · exact h.arrived other hother
    · exact h.arrived call hcall
  · intro other hother now hnow
    rcases hmem other hother with hother | rfl
    · exact h.timed other hother now hnow
    · exact htimed now hnow
  · intro other hother admission hother'
    rw [hpairings]
    rcases hmem other hother with hother | rfl
    · exact h.admitted other hother admission hother'
    · exact h.admitted call hcall admission (hadmission ▸ hother')
  · rw [hpairings, h.consumed, hadmissions]
  · have hcount := countP_put phase hi
    rw [← hcalls] at hcount
    have hregistered := h.registered
    omega

theorem KeepsPairings.of_eq (h : t.pairings = s.pairings) : KeepsPairings s t :=
  fun pairing hmem => ⟨pairing, h ▸ hmem, rfl, id, rfl, rfl⟩

theorem KeepsPairings.consume {k : Nat} {pairing : PairingRecord}
    (hk : s.pairings[k]? = some pairing)
    (hpairings : t.pairings = s.pairings.set k { pairing with consumed := true }) :
    KeepsPairings s t := by
  obtain ⟨before, after, hbefore, hafter⟩ := set_split hk { pairing with consumed := true }
  rw [← hpairings] at hafter
  intro other hother
  rw [hbefore] at hother
  rw [hafter]
  rcases List.mem_append.mp hother with hmem | hmem
  · exact ⟨other, List.mem_append_left _ hmem, rfl, id, rfl, rfl⟩
  · rcases List.mem_cons.mp hmem with rfl | hmem
    · exact ⟨{ other with consumed := true }, by simp, rfl, fun _ => rfl, rfl, rfl⟩
    · exact ⟨other, by simp [hmem], rfl, id, rfl, rfl⟩

/-- No hello has been admitted by a pairing that is not consumed. -/
theorem CallsSound.notMem_admissions (h : s.CallsSound)
    (hids : (s.pairings.map (·.pairingId)).Nodup) {pairing : PairingRecord}
    (hmem : pairing ∈ s.pairings) (hopen : pairing.consumed = false) :
    pairing.pairingId ∉ s.admissions.map (·.pairingId) := by
  intro hadmitted
  obtain ⟨admission, hadmission, hid⟩ := List.mem_map.mp hadmitted
  obtain ⟨call, hcall, hphase⟩ := List.mem_filterMap.mp hadmission
  obtain ⟨-, other, hother, hids', hflag, -, -⟩ := h.admitted call hcall admission hphase
  have heq : other = pairing := List.inj_on_of_nodup_map hids hother hmem (hids'.trans hid)
  rw [heq, hopen] at hflag
  contradiction

/-- A call consumes a pairing. -/
theorem CallsSound.consume (h : s.CallsSound) (hids : (s.pairings.map (·.pairingId)).Nodup)
    (hi : s.calls[i]? = some call) {now : Int} (hphase : call.phase = .timed now) {k : Nat}
    {pairing : PairingRecord} (hk : s.pairings[k]? = some pairing)
    (hcode : pairing.code = call.credential) (hopen : pairing.consumed = false)
    (hexpires : now ≤ pairing.expiresAtMs) (hclock : t.clock = s.clock)
    (hdevices : t.devices = s.devices)
    (hcalls : t.calls =
      (s.put i call (.paired ⟨pairing.pairingId, pairing.label, now⟩)).calls)
    (hpairings : t.pairings = s.pairings.set k { pairing with consumed := true }) :
    t.CallsSound := by
  have hcall : call ∈ s.calls := List.mem_of_getElem? hi
  have hmem : pairing ∈ s.pairings := List.mem_of_getElem? hk
  obtain ⟨before, after, hs, hput⟩ :=
    admissions_put (.paired ⟨pairing.pairingId, pairing.label, now⟩) hi
  rw [hphase] at hs
  have hs : s.admissions = before ++ after := by simpa [Phase.admission?] using hs
  have ht : t.admissions = before ++ ⟨pairing.pairingId, pairing.label, now⟩ :: after := by
    rw [admissions, hcalls, ← admissions, hput]
    simp [Phase.admission?]
  have hothers : ∀ other ∈ t.calls, other ∈ s.calls ∨
      other = { call with phase := .paired ⟨pairing.pairingId, pairing.label, now⟩ } :=
    fun other hother => mem_put_calls (hcalls ▸ hother)
  refine ⟨?_, ?_, ?_, ?_, ?_, ?_⟩
  · intro other hother
    rw [hclock]
    rcases hothers other hother with hother | rfl
    · exact h.arrived other hother
    · exact h.arrived call hcall
  · intro other hother reading hreading
    rcases hothers other hother with hother | rfl
    · exact h.timed other hother reading hreading
    · contradiction
  · have hnot := h.notMem_admissions hids hmem hopen
    have honce := h.once
    rw [hs, List.map_append] at hnot honce
    rw [ht, List.map_append, List.map_cons, List.nodup_middle, List.nodup_cons]
    exact ⟨hnot, honce⟩
  · intro other hother admission hadmission
    rcases hothers other hother with hother | rfl
    · obtain ⟨harrived, old, hold, hid, hflag, hsaid, hbound⟩ :=
        h.admitted other hother admission hadmission
      obtain ⟨new, hnew, hids', hflags, hcodes, hsame⟩ :=
        KeepsPairings.consume hk hpairings old hold
      exact ⟨harrived, new, hnew, hids'.trans hid, hflags hflag, hcodes.trans hsaid,
        hsame ▸ hbound⟩
    · cases Option.some.inj hadmission
      obtain ⟨front, back, -, hset⟩ := set_split hk { pairing with consumed := true }
      refine ⟨h.timed call hcall now hphase, { pairing with consumed := true }, ?_, rfl, rfl,
        hcode, hexpires⟩
      rw [hpairings, hset]
      simp
  · obtain ⟨front, back, hfront, hset⟩ := set_split hk { pairing with consumed := true }
    have hconsumed := h.consumed
    rw [hfront, hs] at hconsumed
    rw [hpairings, hset, ht]
    simp only [List.countP_append, List.countP_cons, List.length_append, List.length_cons,
      hopen, Bool.false_eq_true, if_false, if_true] at hconsumed ⊢
    omega
  · have hcount := countP_put (.paired ⟨pairing.pairingId, pairing.label, now⟩) hi
    have hcalling : call.phase.registered = false := by
      rw [hphase]
      rfl
    rw [← hcalls, hcalling] at hcount
    rw [hdevices, h.registered]
    exact hcount.symm

/-- A hello comes in. -/
theorem CallsSound.receive (h : s.CallsSound) (hello : ClientHello) :
    (s.receive hello).CallsSound := by
  obtain ⟨phase, hcalls, hadmission, hregistered, htimed⟩ :
      ∃ phase : Phase, (s.receive hello).calls = s.calls ++ [⟨hello, s.clock, phase⟩] ∧
        phase.admission? = none ∧ phase.registered = false ∧ ∀ now, phase ≠ .timed now := by
    refine ⟨_, rfl, ?_, ?_, ?_⟩ <;> split <;> simp [Phase.admission?, Phase.registered]
  have hadmissions : (s.receive hello).admissions = s.admissions := by
    rw [admissions, hcalls, List.filterMap_append]
    simp [hadmission, admissions]
  have hmem : ∀ call ∈ (s.receive hello).calls, call ∈ s.calls ∨ call = ⟨hello, s.clock, phase⟩ :=
    by simp [hcalls]
  refine ⟨?_, ?_, hadmissions ▸ h.once, ?_, ?_, ?_⟩
  · intro call hcall
    rcases hmem call hcall with hcall | rfl
    · exact h.arrived call hcall
    · exact Int.le_refl s.clock
  · intro call hcall now hnow
    rcases hmem call hcall with hcall | rfl
    · exact h.timed call hcall now hnow
    · exact absurd hnow (htimed now)
  · intro call hcall admission hsome
    rcases hmem call hcall with hcall | rfl
    · exact h.admitted call hcall admission hsome
    · rw [hadmission] at hsome
      contradiction
  · rw [hadmissions]
    exact h.consumed
  · rw [hcalls, List.countP_append, List.countP_singleton, hregistered]
    exact h.registered

end Calls

/-! ## every step -/

section Steps

variable {config : HostConfig} {s t : HostState} {a : Act}

/-- What a step does, when UUIDs are fresh. -/
inductive Effect (config : HostConfig) (s : HostState) : HostState → Prop
  /-- The clock, the listener, a pairing that is begun. -/
  | idle {t : HostState} (clock : s.clock ≤ t.clock) (devices : t.devices = s.devices)
      (pairings : t.pairings = s.pairings) (calls : t.calls = s.calls)
      (revocations : t.revocations = s.revocations) : Effect config s t
  | receive (hello : ClientHello) : Effect config s (s.receive hello)
  /-- A call moves on by itself. -/
  | move {i : Nat} {call : Authentication} {phase : Phase} (hi : s.calls[i]? = some call)
      (timed : ∀ now, phase = .timed now → now = s.clock)
      (admission : phase.admission? = call.phase.admission?)
      (registered : phase.registered = call.phase.registered)
      (accepted : config.devMode = false → phase.accepted = false) :
      Effect config s (s.put i call phase)
  | consume {i : Nat} {call : Authentication} {now : Int} {k : Nat} {pairing : PairingRecord}
      (hi : s.calls[i]? = some call) (phase : call.phase = .timed now)
      (hk : s.pairings[k]? = some pairing) (admits : pairing.admits call.credential now = true) :
      Effect config s { s.put i call (.paired ⟨pairing.pairingId, pairing.label, now⟩) with
        pairings := s.pairings.set k { pairing with consumed := true } }
  | register {i : Nat} {call : Authentication} {admission : Admission} {now : Int}
      {device : DeviceRecord} {context : AuthContext} (hi : s.calls[i]? = some call)
      (phase : call.phase = .registering admission now)
      (fresh : ∀ other ∈ s.devices, other.deviceId ≠ device.deviceId ∧ other.token ≠ device.token)
      (length : device.token.length = 36) :
      Effect config s { s.put i call (.answered (some admission) (.ok context)) with
        devices := s.devices ++ [device] }
  | find {i : Nat} {call : Authentication} {k : Nat} {device : DeviceRecord}
      {context : AuthContext} (hi : s.calls[i]? = some call) (phase : call.phase = .unpaired)
      (hk : s.devices[k]? = some device) (accepts : device.accepts call.credential = true) :
      Effect config s { s.put i call (.answered none (.ok context)) with
        devices := s.devices.set k { device with lastSeenAtMs := s.clock } }
  | create {pairing : PairingRecord} {creations : List Creation}
      {offers : List PairingCreateResult}
      (fresh : ∀ other ∈ s.pairings, other.pairingId ≠ pairing.pairingId)
      (length : pairing.code.length = 6) (consumed : pairing.consumed = false) :
      Effect config s { s with
        creations := creations
        pairings := s.pairings ++ [pairing]
        offers := offers }
  | revoke (deviceId : String) : Effect config s (s.revokeDevice deviceId)

theorem effect_readClock {i : Nat} (ht : s.readClock i = some t) : Effect config s t := by
  obtain ⟨call, hi, ht⟩ := Option.bind_eq_some_iff.mp ht
  split at ht <;> cases ht
  · next hphase =>
    refine .move hi ?_ (by rw [hphase]; rfl) (by rw [hphase]; rfl) fun _ => rfl
    rintro now ⟨⟩
    rfl
  · next hphase => exact .move hi nofun (by rw [hphase]; rfl) (by rw [hphase]; rfl) fun _ => rfl

theorem effect_takePairing {i : Nat} {choice : Option Nat} (ht : s.takePairing i choice = some t) :
    Effect config s t := by
  obtain ⟨call, hi, ht⟩ := Option.bind_eq_some_iff.mp ht
  split at ht
  · next hphase _ =>
    obtain ⟨pairing, hk, ht⟩ := Option.bind_eq_some_iff.mp ht
    split at ht <;> cases ht
    next hadmits _ => exact .consume hi hphase hk hadmits
  · next hphase _ =>
    split at ht <;> cases ht
    exact .move hi nofun (by rw [hphase]; rfl) (by rw [hphase]; rfl) fun _ => rfl
  · contradiction

theorem effect_findDevice {i : Nat} {choice : Option Nat}
    (ht : s.findDevice config i choice = some t) : Effect config s t := by
  obtain ⟨call, hi, ht⟩ := Option.bind_eq_some_iff.mp ht
  split at ht
  · next hphase _ =>
    obtain ⟨device, hk, ht⟩ := Option.bind_eq_some_iff.mp ht
    split at ht <;> cases ht
    next haccepts _ => exact .find hi hphase hk haccepts
  · next hphase _ =>
    split at ht <;> cases ht
    refine .move hi nofun (by rw [hphase]; rfl) (by rw [hphase]; rfl) fun hdev => ?_
    rw [developmentAnswer, hdev]
    rfl
  · contradiction

/-- What `register` inserts, whatever device has the id already. -/
theorem register_cases {i : Nat} {deviceUuid tokenUuid : Uuid}
    (ht : s.register i deviceUuid tokenUuid = some t) :
    ∃ call admission now device context, s.calls[i]? = some call ∧
      call.phase = .registering admission now ∧
      device.deviceId = "device-" ++ deviceUuid.toString ∧ device.token = tokenUuid.toString ∧
      t = { s.put i call (.answered (some admission) (.ok context)) with
        devices := s.devices.filter (·.deviceId ≠ device.deviceId) ++ [device] } := by
  obtain ⟨call, hi, ht⟩ := Option.bind_eq_some_iff.mp ht
  split at ht
  · next admission now hphase =>
    let device : DeviceRecord := {
      deviceId := "device-" ++ deviceUuid.toString
      label := admission.label
      token := tokenUuid.toString
      createdAtMs := now
      lastSeenAtMs := now
      revoked := false }
    exact ⟨call, admission, now, device, _, hi, hphase, rfl, rfl, (Option.some.inj ht).symm⟩
  · contradiction

theorem effect_register {i : Nat} {deviceUuid tokenUuid : Uuid}
    (hfresh : Fresh s (.register i deviceUuid tokenUuid))
    (ht : s.register i deviceUuid tokenUuid = some t) : Effect config s t := by
  obtain ⟨call, admission, now, device, context, hi, hphase, hid, htoken, rfl⟩ :=
    register_cases ht
  have hnew : ∀ other ∈ s.devices, other.deviceId ≠ device.deviceId ∧
      other.token ≠ device.token := by
    rw [hid, htoken]
    exact hfresh
  have hkept : s.devices.filter (·.deviceId ≠ device.deviceId) = s.devices :=
    List.filter_eq_self.mpr fun other hmem => by simpa using (hnew other hmem).1
  rw [hkept]
  exact .register hi hphase hnew (htoken ▸ tokenUuid.length_toString)

/-- What `begin_pairing` inserts, whatever pairing has the id already. -/
theorem insertPairing_cases {k : Nat} {idUuid codeUuid : Uuid}
    (ht : s.insertPairing config k idUuid codeUuid = some t) :
    ∃ pairing creations offers, pairing.pairingId = idUuid.toString ∧
      pairing.code = generatePairingCode codeUuid ∧ pairing.consumed = false ∧
      t = { s with
        creations := creations
        pairings := s.pairings.filter (·.pairingId ≠ pairing.pairingId) ++ [pairing]
        offers := offers } := by
  obtain ⟨creation, hk, ht⟩ := Option.map_eq_some_iff.mp ht
  exact ⟨_, _, _, rfl, rfl, rfl, ht.symm⟩

theorem effect_insertPairing {k : Nat} {idUuid codeUuid : Uuid}
    (hfresh : Fresh s (.insertPairing k idUuid codeUuid))
    (ht : s.insertPairing config k idUuid codeUuid = some t) : Effect config s t := by
  obtain ⟨pairing, creations, offers, hid, hcode, hopen, rfl⟩ := insertPairing_cases ht
  have hnew : ∀ other ∈ s.pairings, other.pairingId ≠ pairing.pairingId := by
    rw [hid]
    exact hfresh
  have hkept : s.pairings.filter (·.pairingId ≠ pairing.pairingId) = s.pairings :=
    List.filter_eq_self.mpr fun other hmem => by simpa using hnew other hmem
  rw [hkept]
  exact .create hnew (by rw [hcode, length_generatePairingCode]) hopen

/-- The one place where the steps are told apart. -/
theorem effect_of_next (hfresh : Fresh s a) (ht : next config s a = some t) :
    Effect config s t := by
  cases a with
  | tick now =>
      simp only [HostService.next] at ht
      split at ht <;> cases ht
      next hle => exact .idle hle rfl rfl rfl rfl
  | setListener listener =>
      cases ht
      exact .idle (Int.le_refl _) rfl rfl rfl rfl
  | receive hello =>
      cases ht
      exact .receive hello
  | readClock i => exact effect_readClock ht
  | takePairing i choice => exact effect_takePairing ht
  | register i deviceUuid tokenUuid => exact effect_register hfresh ht
  | findDevice i choice => exact effect_findDevice ht
  | beginPairing label =>
      cases ht
      exact .idle (Int.le_refl _) rfl rfl rfl rfl
  | insertPairing k idUuid codeUuid => exact effect_insertPairing hfresh ht
  | revokeDevice deviceId =>
      cases ht
      exact .revoke deviceId

theorem Sound.new (clock : Int) : (HostState.new clock).Sound where
  devices := ⟨List.nodup_nil, List.nodup_nil, by simp [HostState.new], by simp [HostState.new]⟩
  pairings := ⟨List.nodup_nil, by simp [HostState.new]⟩
  calls := by
    refine ⟨?_, ?_, List.nodup_nil, ?_, rfl, rfl⟩ <;> simp [HostState.new]

/-- What the searches ask of a record. -/
theorem admits_iff {pairing : PairingRecord} {credential : String} {now : Int} :
    pairing.admits credential now = true ↔
      pairing.code = credential ∧ pairing.consumed = false ∧ now ≤ pairing.expiresAtMs := by
  simp [PairingRecord.admits, and_assoc]

theorem accepts_iff {device : DeviceRecord} {credential : String} :
    device.accepts credential = true ↔ device.token = credential ∧ device.revoked = false := by
  simp [DeviceRecord.accepts]

/-- **Step**: soundness is kept. -/
theorem Sound.step (h : s.Sound) (heffect : Effect config s t) : t.Sound := by
  cases heffect with
  | idle hclock hdevices hpairings hcalls hrevocations =>
      exact ⟨h.devices.frame hdevices hrevocations, h.pairings.frame hpairings,
        h.calls.frame hclock hcalls (.of_eq hpairings) (by rw [hpairings]) (by rw [hdevices])⟩
  | receive hello =>
      exact ⟨h.devices.frame rfl rfl, h.pairings.frame rfl, h.calls.receive hello⟩
  | move hi htimed hadmission hregistered =>
      refine ⟨h.devices.frame rfl rfl, h.pairings.frame rfl,
        h.calls.move hi rfl rfl rfl ?_ hadmission (by rw [hregistered]; rfl)⟩
      intro now hnow
      rw [htimed now hnow]
      exact h.calls.arrived _ (List.mem_of_getElem? hi)
  | consume hi hphase hk hadmits =>
      obtain ⟨hcode, hopen, hexpires⟩ := admits_iff.mp hadmits
      exact ⟨h.devices.frame rfl rfl, h.pairings.consume hk rfl,
        h.calls.consume h.pairings.ids hi hphase hk hcode hopen hexpires rfl rfl rfl rfl⟩
  | register hi hphase hfresh hlength =>
      refine ⟨h.devices.insert hfresh hlength rfl rfl, h.pairings.frame rfl,
        h.calls.move hi rfl rfl rfl nofun (by rw [hphase]; rfl) ?_⟩
      rw [hphase, List.length_append]
      rfl
  | find hi hphase hk =>
      refine ⟨h.devices.touch hk rfl rfl, h.pairings.frame rfl,
        h.calls.move hi rfl rfl rfl nofun (by rw [hphase]; rfl) ?_⟩
      rw [hphase, List.length_set]
      rfl
  | create hfresh hlength hopen =>
      refine ⟨h.devices.frame rfl rfl, h.pairings.insert hfresh hlength rfl,
        h.calls.frame (Int.le_refl _) rfl ?_ ?_ rfl⟩
      · intro other hother
        exact ⟨other, List.mem_append_left _ hother, rfl, id, rfl, rfl⟩
      · rw [List.countP_append, List.countP_singleton, if_neg (by simp [hopen]), Nat.add_zero]
  | revoke deviceId =>
      refine ⟨h.devices.revokeDevice deviceId, h.pairings.frame ?_,
        h.calls.frame ?_ ?_ (.of_eq ?_) ?_ ?_⟩
      all_goals
        unfold HostState.revokeDevice
        split <;> simp

/-- **Soundness of a run**: whatever the order of the steps, as long as UUIDs are
fresh. -/
theorem sound_of_reachUnder (h : (system config).ReachUnder Fresh s) : s.Sound :=
  System.invariant_of_step (fun _ ⟨clock, hs⟩ => hs ▸ Sound.new clock)
    (fun _ _ _ hs hfresh ht => hs.step (effect_of_next hfresh ht)) h

theorem KeepsDevices.step (heffect : Effect config s t) : KeepsDevices s t := by
  cases heffect with
  | idle hclock hdevices => exact .of_eq hdevices
  | receive | move | consume | create => exact .of_eq rfl
  | register => exact fun other hother => ⟨other, List.mem_append_left _ hother, rfl, rfl, id⟩
  | find hi hphase hk => exact .touch hk rfl
  | revoke deviceId => exact .revokeDevice s deviceId

/-- A call in a list in which one has moved on. -/
theorem getElem?_put {i j : Nat} {call other : Authentication} {phase : Phase}
    (hj : (s.put i call phase).calls[j]? = some other) :
    s.calls[j]? = some other ∨ other = { call with phase := phase } := by
  rw [put, List.getElem?_set] at hj
  split at hj
  · split at hj
    · exact .inr (Option.some.inj hj).symm
    · contradiction
  · exact .inl hj

/-- **Step**: no hello is accepted with the token of a revoked device. -/
theorem refused_of_revoked (h : s.Sound) (hdev : config.devMode = false) {device : DeviceRecord}
    (hdevice : device ∈ s.devices) (hrevoked : device.revoked = true)
    (heffect : Effect config s t) {j : Nat} {other : Authentication}
    (hj : t.calls[j]? = some other) (hcredential : other.credential = device.token)
    (haccepted : other.phase.accepted = true) : s.calls[j]? = some other := by
  cases heffect with
  | idle hclock hdevices hpairings hcalls => exact hcalls ▸ hj
  | receive hello =>
      rw [HostState.receive, List.getElem?_append] at hj
      split at hj
      · exact hj
      · rw [List.mem_singleton.mp (List.mem_of_getElem? hj)] at haccepted
        split at haccepted <;> contradiction
  | move hi htimed hadmission hregistered hphase =>
      rcases getElem?_put hj with hj | rfl
      · exact hj
      · rw [hphase hdev] at haccepted
        contradiction
  | consume =>
      rcases getElem?_put hj with hj | rfl
      · exact hj
      · contradiction
  | @register i call admission now new context hi hphase =>
      rcases getElem?_put hj with hj | rfl
      · exact hj
      · -- the credential was a code, which is shorter than a token
        obtain ⟨-, pairing, hpairing, -, -, hcode, -⟩ :=
          h.calls.admitted call (List.mem_of_getElem? hi) admission (by rw [hphase]; rfl)
        have hshort := h.pairings.codeLength pairing hpairing
        have hlong := h.devices.tokenLength device.token (List.mem_map_of_mem hdevice)
        have hsame : call.credential = device.token := hcredential
        rw [hcode, hsame] at hshort
        omega
  | @find i call k found context hi hphase hk haccepts =>
      rcases getElem?_put hj with hj | rfl
      · exact hj
      · obtain ⟨htoken, hopen⟩ := accepts_iff.mp haccepts
        have hsame : call.credential = device.token := hcredential
        have heq : found = device := List.inj_on_of_nodup_map h.devices.tokens
          (List.mem_of_getElem? hk) hdevice (htoken.trans hsame)
        rw [heq, hrevoked] at hopen
        contradiction
  | create => exact hj
  | revoke deviceId =>
      unfold HostState.revokeDevice at hj
      split at hj <;> exact hj

end Steps

end HostState

/-! ## whole runs -/

/-- Whether the hello has consumed the pairing. -/
def Authentication.admittedBy (call : Authentication) (pairing : PairingRecord) : Bool :=
  call.phase.admission?.any (·.pairingId == pairing.pairingId)

namespace HostState

variable {config : HostConfig} {s t : HostState}

theorem Sound.admits_once (h : s.Sound) (pairing : PairingRecord) :
    s.calls.countP (·.admittedBy pairing) ≤ 1 := by
  have honce := List.nodup_iff_count_le_one.mp h.calls.once pairing.pairingId
  rw [List.count_eq_countP, List.countP_map, admissions, List.countP_filterMap] at honce
  refine (Nat.le_of_eq ?_).trans honce
  refine List.countP_congr fun call _ => ?_
  rw [Authentication.admittedBy]
  cases call.phase.admission? <;> rfl

theorem Sound.admits_in_time (h : s.Sound) {pairing : PairingRecord} (hmem : pairing ∈ s.pairings)
    {call : Authentication} (hcall : call ∈ s.calls) {admission : Admission}
    (hadmission : call.phase.admission? = some admission)
    (hid : admission.pairingId = pairing.pairingId) :
    call.arrived ≤ admission.now ∧ admission.now ≤ pairing.expiresAtMs := by
  obtain ⟨harrived, other, hother, hids, -, -, hexpires⟩ :=
    h.calls.admitted call hcall admission hadmission
  have heq : other = pairing :=
    List.inj_on_of_nodup_map h.pairings.ids hother hmem (hids.trans hid)
  exact ⟨harrived, heq ▸ hexpires⟩

theorem Phase.admission?_of_registered {phase : Phase} (h : phase.registered = true) :
    phase.admission?.isSome = true := by
  unfold Phase.registered at h
  split at h
  · rfl
  · contradiction

theorem Sound.consumed_eq (h : s.Sound) :
    s.pairings.countP (·.consumed) = s.calls.countP (·.phase.admission?.isSome) := by
  rw [h.calls.consumed, admissions, List.length_filterMap_eq_countP]

theorem Sound.devices_le (h : s.Sound) : s.devices.length ≤ s.pairings.countP (·.consumed) := by
  rw [h.calls.registered, h.consumed_eq]
  exact List.countP_mono_left fun call _ => Phase.admission?_of_registered

/-- With every hello answered there is a device for each consumed pairing. -/
theorem Sound.devices_eq (h : s.Sound) (hdone : ∀ call ∈ s.calls, call.phase.done = true) :
    s.devices.length = s.pairings.countP (·.consumed) := by
  rw [h.calls.registered, h.consumed_eq]
  refine List.countP_congr fun call hcall => ?_
  cases hphase : call.phase with
  | answered admission result => cases admission <;> simp [Phase.registered, Phase.admission?]
  | received | timed now | paired admission | registering admission now | unpaired =>
      have hanswered := hdone call hcall
      rw [hphase] at hanswered
      contradiction

/-- **Run**: once a device is revoked, only hellos that were accepted before have
its token. -/
theorem refused_in_runs (hdev : config.devMode = false) (h : s.Sound) {device : DeviceRecord}
    (hdevice : device ∈ s.devices) (hrevoked : device.revoked = true)
    (ht : (System.ofNext (· = s) (next config)).ReachUnder Fresh t) {i : Nat}
    {call : Authentication} (hcall : t.calls[i]? = some call)
    (hcredential : call.credential = device.token) (haccepted : call.phase.accepted = true) :
    s.calls[i]? = some call := by
  let Keeps (t : HostState) : Prop := t.Sound ∧
    (∃ other ∈ t.devices, other.token = device.token ∧ other.revoked = true) ∧
    ∀ call, t.calls[i]? = some call → call.credential = device.token →
      call.phase.accepted = true → s.calls[i]? = some call
  have hkeeps : Keeps t := by
    refine System.invariant_of_step (I := Keeps) ?_ ?_ ht
    · rintro _ rfl
      exact ⟨h, ⟨device, hdevice, rfl, hrevoked⟩, fun call hcall _ _ => hcall⟩
    · rintro u a v ⟨hsound, ⟨other, hother, htoken, hflag⟩, hcalls⟩ hfresh hv
      have heffect := effect_of_next hfresh hv
      refine ⟨hsound.step heffect, ?_, fun call hcall hsame hok => ?_⟩
      · obtain ⟨new, hnew, -, hsame, hflags⟩ := KeepsDevices.step heffect other hother
        exact ⟨new, hnew, hsame.trans htoken, hflags hflag⟩
      · refine hcalls call ?_ hsame hok
        exact refused_of_revoked hsound hdev hother hflag heffect hcall
          (hsame.trans htoken.symm) hok
  exact hkeeps.2.2 call hcall hcredential haccepted

/-- **Pairing codes and revocation**: in every run a pairing admits at most one
hello, and none that came in after it expired; there are as many devices as
consumed pairings, up to the hellos in progress; and after a revocation was
answered no hello is accepted with the device's token. -/
theorem pairing_and_revocation (hdev : config.devMode = false)
    (h : (system config).ReachUnder Fresh s) :
    (∀ pairing ∈ s.pairings, s.calls.countP (·.admittedBy pairing) ≤ 1 ∧
      ∀ call ∈ s.calls, ∀ admission, call.phase.admission? = some admission →
        admission.pairingId = pairing.pairingId →
          call.arrived ≤ admission.now ∧ admission.now ≤ pairing.expiresAtMs) ∧
    s.devices.length ≤ s.pairings.countP (·.consumed) ∧
    ((∀ call ∈ s.calls, call.phase.done = true) →
      s.devices.length = s.pairings.countP (·.consumed)) ∧
    ∀ device ∈ s.devices, ∀ dto, (device.deviceId, .ok dto) ∈ s.revocations →
      ∀ t, (System.ofNext (· = s) (next config)).ReachUnder Fresh t →
        ∀ (i : Nat) (call : Authentication), t.calls[i]? = some call →
          call.credential = device.token → call.phase.accepted = true →
            s.calls[i]? = some call := by
  have hsound := sound_of_reachUnder h
  refine ⟨fun pairing hmem => ⟨hsound.admits_once pairing, ?_⟩, hsound.devices_le,
    hsound.devices_eq, ?_⟩
  · intro call hcall admission hadmission hid
    exact hsound.admits_in_time hmem hcall hadmission hid
  · intro device hdevice dto hanswer t ht i call hcall hcredential haccepted
    obtain ⟨other, hother, hid, hflag⟩ := hsound.devices.revoked _ hanswer rfl
    have heq : other = device := List.inj_on_of_nodup_map hsound.devices.ids hother hdevice hid
    exact refused_in_runs hdev hsound hdevice (heq ▸ hflag) ht hcall hcredential haccepted

end HostState

/-! ## a phone is paired and revoked -/

def sampleConfig : HostConfig where
  bind := "127.0.0.1:7777"
  serverId := "host"
  devMode := false
  devToken := none
  pairingTtlSecs := 300

def sampleUuid (n : UInt8) : Uuid := ⟨fun _ => n⟩

def sampleHello (credential : String) : ClientHello where
  protocolVersion := 1
  clientId := "phone"
  clientName := "Phone"
  clientVersion := "1"
  deviceId := none
  credential := some credential
  resume := none

/-- A code is begun, used and used up; its device says hello and is revoked. -/
def sampleActs : List Act :=
  [.beginPairing "Phone", .insertPairing 0 (sampleUuid 1) (sampleUuid 2),
    .receive (sampleHello (generatePairingCode (sampleUuid 2))), .tick 60000, .readClock 0,
    .takePairing 0 (some 0), .readClock 0, .register 0 (sampleUuid 3) (sampleUuid 4),
    .receive (sampleHello (sampleUuid 4).toString), .readClock 1, .takePairing 1 none,
    .findDevice 1 (some 0), .revokeDevice ("device-" ++ (sampleUuid 3).toString)]

/-- The device says hello again. -/
def sampleAgain : List Act :=
  [.receive (sampleHello (sampleUuid 4).toString), .readClock 2, .takePairing 2 none,
    .findDevice 2 none]

def sampleRevoked : HostState :=
  (System.runs (next sampleConfig) (.new 0) sampleActs).getD (.new 0)

def sampleRefused : HostState :=
  (System.runs (next sampleConfig) sampleRevoked sampleAgain).getD sampleRevoked

theorem reachUnder_sampleRevoked : (system sampleConfig).ReachUnder Fresh sampleRevoked :=
  System.reachUnder_of_runs sampleActs ⟨0, rfl⟩ (by decide +kernel) rfl

/-- The one code has made the one device, and its token is refused. -/
theorem pairing_and_revocation_sample :
    sampleRevoked.devices.length = sampleRevoked.pairings.countP (·.consumed) ∧
      ∀ call ∈ sampleRefused.calls[2]?, call.phase.accepted = false := by
  obtain ⟨-, -, hdevices, hrefused⟩ :=
    HostState.pairing_and_revocation (s := sampleRevoked) rfl reachUnder_sampleRevoked
  refine ⟨hdevices (by decide +kernel), fun call hcall => ?_⟩
  obtain ⟨device, hdevice, dto, hanswer, htoken⟩ : ∃ device ∈ sampleRevoked.devices, ∃ dto,
      (device.deviceId, .ok dto) ∈ sampleRevoked.revocations ∧
        device.token = (sampleUuid 4).toString :=
    ⟨_, List.mem_singleton_self _, _, List.mem_singleton_self _, rfl⟩
  have ht : (System.ofNext (· = sampleRevoked) (next sampleConfig)).ReachUnder Fresh
      sampleRefused :=
    System.reachUnder_of_runs sampleAgain rfl (by decide +kernel) rfl
  have hcredential : call.credential = device.token := by
    rw [htoken, ← Option.some.inj hcall]
    rfl
  rw [← Bool.not_eq_true]
  intro haccepted
  have hbefore := hrefused device hdevice dto hanswer _ ht 2 call hcall hcredential haccepted
  contradiction

end HostService

end Slight
