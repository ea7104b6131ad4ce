import Slight.Gateway.Protocol
import Slight.Support.System

/-!
# Slight.Host.State

The credentials of the host: pairings, the devices they admit, and the hellos
that present a code or a token.

`HostState.authenticate` takes the lock of the pairings and then that of the
devices, and reads the clock before and between them; any number of hellos run
at once.  A `Phase` says how far a hello has come, and one step of `HostState`
is one clock reading or one locked section.  Where the host searches one of its
hash maps for a record, the step chooses among all that match.
-/

namespace Slight

namespace HostService

open Gateway Support

/-! ## identifiers -/

/-- A random UUID. -/
structure Uuid where
  bytes : Fin 16 → UInt8

namespace Uuid

def hexByte (b : UInt8) : List Char :=
  [Nat.digitChar (b.toNat / 16), Nat.digitChar (b.toNat % 16)]

def group (uuid : Uuid) (indices : List (Fin 16)) : List Char :=
  indices.flatMap fun i => hexByte (uuid.bytes i)

def toString (uuid : Uuid) : String :=
  String.ofList (uuid.group [0, 1, 2, 3] ++ '-' :: uuid.group [4, 5] ++ '-' :: uuid.group [6, 7] ++
    '-' :: uuid.group [8, 9] ++ '-' :: uuid.group [10, 11, 12, 13, 14, 15])

theorem length_group (uuid : Uuid) (indices : List (Fin 16)) :
    (uuid.group indices).length = 2 * indices.length := by
  induction indices with
  | nil => rfl
  | cons i indices ih =>
      rw [group, List.flatMap_cons, List.length_append, ← group, ih, List.length_cons]
      simp only [hexByte, List.length_cons, List.length_nil]
      omega

theorem length_toString (uuid : Uuid) : uuid.toString.length = 36 := by
  rw [Uuid.toString, String.length_ofList]
  simp only [List.length_append, List.length_cons, List.length_nil, length_group]

end Uuid

/-- Six decimal digits, drawn from the first bytes of a UUID. -/
def generatePairingCode (uuid : Uuid) : String :=
  let value : Nat := ((uuid.bytes 0).toNat * 2 ^ 24 + (uuid.bytes 1).toNat * 2 ^ 16 +
    (uuid.bytes 2).toNat * 2 ^ 8 + (uuid.bytes 3).toNat) % 1000000
  zeroPadded 6 value

theorem length_generatePairingCode (uuid : Uuid) : (generatePairingCode uuid).length = 6 := by
  rw [← String.length_toList]
  exact (digitRun_zeroPadded (by decide) (Nat.mod_lt _ (by decide))).length

/-! ## records -/

structure HostConfig where
  bind : String
  serverId : String
  devMode : Bool
  devToken : Option String
  pairingTtlSecs : Nat

structure DeviceRecord where
  deviceId : String
  label : String
  token : String
  createdAtMs : Int
  lastSeenAtMs : Int
  revoked : Bool
  deriving DecidableEq

structure PairingRecord where
  pairingId : String
  code : String
  label : String
  expiresAtMs : Int
  consumed : Bool
  deriving DecidableEq

structure DeviceSummaryDto where
  deviceId : String
  label : String
  createdAt : String
  lastSeenAt : String
  revoked : Bool

def deviceDto (device : DeviceRecord) : DeviceSummaryDto where
  deviceId := device.deviceId
  label := device.label
  createdAt := rfc3339FromMs device.createdAtMs
  lastSeenAt := rfc3339FromMs device.lastSeenAtMs
  revoked := device.revoked

structure PairingCreateResult where
  pairingId : String
  code : String
  label : String
  expiresAt : String
  qrPayload : String

/-! ## calls in progress -/

/-- The pairing that a hello has consumed, and the clock reading it was admitted
at. -/
structure Admission where
  pairingId : String
  label : String
  now : Int
  deriving DecidableEq

/-- How far `authenticate` has come. -/
inductive Phase where
  /-- about to read the clock -/
  | received
  /-- waits for the lock of the pairings -/
  | timed (now : Int)
  /-- has consumed a pairing and reads the clock again -/
  | paired (admission : Admission)
  /-- waits for the lock of the devices, to insert one -/
  | registering (admission : Admission) (now : Int)
  /-- no pairing matches; waits for the lock of the devices, to find one -/
  | unpaired
  | answered (admission : Option Admission) (result : Except ProtocolError AuthContext)

/-- The pairing a hello in this phase has consumed. -/
def Phase.admission? : Phase → Option Admission
  | .received | .timed _ | .unpaired => none
  | .paired admission | .registering admission _ => some admission
  | .answered admission _ => admission

def Phase.done : Phase → Bool
  | .answered .. => true
  | _ => false

/-- A hello that consumed a pairing and whose device is recorded. -/
def Phase.registered : Phase → Bool
  | .answered (some _) _ => true
  | _ => false

def Phase.accepted : Phase → Bool
  | .answered _ (.ok _) => true
  | _ => false

/-- A call of `authenticate`, with the clock when it came in. -/
structure Authentication where
  hello : ClientHello
  arrived : Int
  phase : Phase

def Authentication.credential (call : Authentication) : String := call.hello.credential.getD ""

/-- A call of `begin_pairing` that waits for the lock of the pairings. -/
structure Creation where
  label : String
  now : Int

/-- The state of the host, and what its calls have answered so far. -/
structure HostState where
  clock : Int
  listener : Option String
  devices : List DeviceRecord
  pairings : List PairingRecord
  calls : List Authentication
  creations : List Creation
  offers : List PairingCreateResult
  revocations : List (String × Except ProtocolError DeviceSummaryDto)

def HostState.new (clock : Int) : HostState where
  clock := clock
  listener := none
  devices := []
  pairings := []
  calls := []
  creations := []
  offers := []
  revocations := []

/-! ## one step of a call -/

/-- Whether the search for a code picks the pairing. -/
def PairingRecord.admits (pairing : PairingRecord) (credential : String) (now : Int) : Bool :=
  pairing.code == credential && !pairing.consumed && decide (now ≤ pairing.expiresAtMs)

/-- Whether the search for a token picks the device. -/
def DeviceRecord.accepts (device : DeviceRecord) (credential : String) : Bool :=
  device.token == credential && !device.revoked

/-- What is left of a value in 64 bits. -/
def i64 (n : Int) : Int := n.bmod (2 ^ 64)

def expiresAtMs (config : HostConfig) (now : Int) : Int :=
  i64 (now + i64 (i64 config.pairingTtlSecs * 1000))

/-- A time to live that does not overflow is added as it is. -/
theorem expiresAtMs_eq {config : HostConfig} {now : Int} (h0 : 0 ≤ now)
    (h : now + config.pairingTtlSecs * 1000 < 2 ^ 63) :
    expiresAtMs config now = now + config.pairingTtlSecs * 1000 := by
  have hbmod : ∀ n : Int, 0 ≤ n → n < 2 ^ 63 → i64 n = n :=
    fun n h0 hn => Int.bmod_eq_of_le (by omega) (by omega)
  rw [expiresAtMs, hbmod config.pairingTtlSecs (by omega) (by omega),
    hbmod (config.pairingTtlSecs * 1000) (by omega) (by omega), hbmod _ (by omega) h]

/-- The answer to a credential that is neither a code nor a token. -/
def developmentAnswer (config : HostConfig) (call : Authentication) :
    Except ProtocolError AuthContext :=
  let accepted := match config.devToken with
    | some token => token == call.credential
    | none => true
  if config.devMode && accepted then
    .ok (AuthContext.all (call.hello.deviceId.getD "dev-device") call.hello.clientName)
  else .error (.unauthenticated "invalid credential")

namespace HostState

def put (s : HostState) (i : Nat) (call : Authentication) (phase : Phase) : HostState :=
  { s with calls := s.calls.set i { call with phase := phase } }

/-- `authenticate` is called; an empty credential is refused at once. -/
def receive (s : HostState) (hello : ClientHello) : HostState :=
  let phase : Phase :=
    if (hello.credential.getD "").isEmpty then
      .answered none (.error (.unauthenticated "credential required"))
    else .received
  { s with calls := s.calls ++ [{ hello := hello, arrived := s.clock, phase := phase }] }

/-- `let now = now_ms()`. -/
def readClock (s : HostState) (i : Nat) : Option HostState :=
  s.calls[i]?.bind fun call =>
    match call.phase with
    | .received => some (s.put i call (.timed s.clock))
    | .paired admission => some (s.put i call (.registering admission s.clock))
    | _ => none

/-- The section under the lock of the pairings: the search finds the pairing at
`choice`, or none. -/
def takePairing (s : HostState) (i : Nat) (choice : Option Nat) : Option HostState :=
  s.calls[i]?.bind fun call =>
    match call.phase, choice with
    | .timed now, some k =>
        s.pairings[k]?.bind fun pairing =>
          if pairing.admits call.credential now then
            let admission : Admission := ⟨pairing.pairingId, pairing.label, now⟩
            some { s.put i call (.paired admission) with
              pairings := s.pairings.set k { pairing with consumed := true } }
          else none
    | .timed now, none =>
        if s.pairings.any (·.admits call.credential now) then none
        else some (s.put i call .unpaired)
    | _, _ => none

/-- A device is inserted under the lock of the devices. -/
def register (s : HostState) (i : Nat) (deviceUuid tokenUuid : Uuid) : Option HostState :=
  s.calls[i]?.bind fun call =>
    match call.phase with
    | .registering admission now =>
        let device : DeviceRecord := {
          deviceId := "device-" ++ deviceUuid.toString
          label := admission.label
          token := tokenUuid.toString
          createdAtMs := now
          lastSeenAtMs := now
          revoked := false }
        let context := AuthContext.all device.deviceId device.label
        some { s.put i call (.answered (some admission) (.ok context)) with
          devices := s.devices.filter (·.deviceId ≠ device.deviceId) ++ [device] }
    | _ => none

/-- The section under the lock of the devices: the search finds the device at
`choice`, or none. -/
def findDevice (config : HostConfig) (s : HostState) (i : Nat) (choice : Option Nat) :
    Option HostState :=
  s.calls[i]?.bind fun call =>
    match call.phase, choice with
    | .unpaired, some k =>
        s.devices[k]?.bind fun device =>
          if device.accepts call.credential then
            let context := AuthContext.all device.deviceId device.label
            some { s.put i call (.answered none (.ok context)) with
              devices := s.devices.set k { device with lastSeenAtMs := s.clock } }
          else none
    | .unpaired, none =>
        if s.devices.any (·.accepts call.credential) then none
        else some (s.put i call (.answered none (developmentAnswer config call)))
    | _, _ => none

/-- `begin_pairing` up to the lock of the pairings. -/
def beginPairing (s : HostState) (label : String) : HostState :=
  { s with creations := s.creations ++ [{ label := label, now := s.clock }] }

/-- The rest of `begin_pairing`. -/
def insertPairing (config : HostConfig) (s : HostState) (k : Nat) (idUuid codeUuid : Uuid) :
    Option HostState :=
  s.creations[k]?.map fun creation =>
    let pairing : PairingRecord := {
      pairingId := idUuid.toString
      code := generatePairingCode codeUuid
      label := creation.label
      expiresAtMs := expiresAtMs config creation.now
      consumed := false }
    let qrPayload := "slight://pair?host=" ++ config.serverId ++ "&code=" ++ pairing.code ++
      "&addr=" ++ s.listener.getD config.bind
    let offer : PairingCreateResult := {
      pairingId := pairing.pairingId
      code := pairing.code
      label := pairing.label
      expiresAt := rfc3339FromMs pairing.expiresAtMs
      qrPayload := qrPayload }
    { s with
      creations := s.creations.eraseIdx k
      pairings := s.pairings.filter (·.pairingId ≠ pairing.pairingId) ++ [pairing]
      offers := s.offers ++ [offer] }

def revokeDevice (s : HostState) (deviceId : String) : HostState :=
  match s.devices.find? (·.deviceId == deviceId) with
  | none =>
      let error := ProtocolError.invalidParams ("unknown device: " ++ deviceId)
      { s with revocations := s.revocations ++ [(deviceId, .error error)] }
  | some device =>
      { s with
        devices := s.devices.map fun d =>
          if d.deviceId = deviceId then { d with revoked := true } else d
        revocations := s.revocations ++
          [(deviceId, .ok (deviceDto { device with revoked := true }))] }

end HostState

/-! ## the system -/

/-- The calls that start and the sections they go through; an index names a call
in the order of the calls. -/
inductive Act where
  | tick (now : Int)
  | setListener (listener : String)
  | receive (hello : ClientHello)
  | readClock (i : Nat)
  | takePairing (i : Nat) (choice : Option Nat)
  | register (i : Nat) (deviceUuid tokenUuid : Uuid)
  | findDevice (i : Nat) (choice : Option Nat)
  | beginPairing (label : String)
  | insertPairing (k : Nat) (idUuid codeUuid : Uuid)
  | revokeDevice (deviceId : String)

/-- The clock never goes back. -/
def next (config : HostConfig) (s : HostState) : Act → Option HostState
  | .tick now => if s.clock ≤ now then some { s with clock := now } else none
  | .setListener listener => some { s with listener := some listener }
  | .receive hello => some (s.receive hello)
  | .readClock i => s.readClock i
  | .takePairing i choice => s.takePairing i choice
  | .register i deviceUuid tokenUuid => s.register i deviceUuid tokenUuid
  | .findDevice i choice => s.findDevice config i choice
  | .beginPairing label => some (s.beginPairing label)
  | .insertPairing k idUuid codeUuid => s.insertPairing config k idUuid codeUuid
  | .revokeDevice deviceId => some (s.revokeDevice deviceId)

def system (config : HostConfig) : System HostState Act :=
  .ofNext (fun s => ∃ clock, s = .new clock) (next config)

/-- A UUID that is drawn for a record differs from those of the records there
are. -/
def Fresh (s : HostState) : Act → Prop
  | .register _ deviceUuid tokenUuid =>
      ∀ device ∈ s.devices, device.deviceId ≠ "device-" ++ deviceUuid.toString ∧
        device.token ≠ tokenUuid.toString
  | .insertPairing _ idUuid _ => ∀ pairing ∈ s.pairings, pairing.pairingId ≠ idUuid.toString
  | _ => True

instance (s : HostState) : ∀ a, Decidable (Fresh s a)
  | .register .. => inferInstanceAs (Decidable (∀ device ∈ s.devices, _ ∧ _))
  | .insertPairing .. => inferInstanceAs (Decidable (∀ pairing ∈ s.pairings, _))
  | .tick _ | .setListener _ | .receive _ | .readClock _ | .takePairing .. | .findDevice .. |
    .beginPairing _ | .revokeDevice _ => .isTrue trivial

end HostService

end Slight
