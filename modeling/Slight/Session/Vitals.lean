import Slight.Session.Journal

/-!
# Slight.Session.Vitals

What the manager believes of a session (`Vitals`) and what its history tells a
client (`signals`), and how both change.  Seen from one session every call under
the manager's lock is at most one `Beat`: `pulse_call` says which one.

The calls are those the operations consist of; a pump is a drain of every
session followed by `applyAgentEvent` for each drained event and `ensureExited`
where the agent no longer runs.
-/

namespace Slight

open Support Program

variable {S C : Type}

/-! ## signals and vitals -/

/-- What an event tells of the session's state. -/
inductive Signal where
  | status (status : SessionStatus)
  | requested (id : String)
  | resolved (id : String)
  | exit
  deriving DecidableEq

def SessionEvent.signal? : SessionEvent → Option Signal
  | status payload => some (.status payload.status)
  | permissionRequest payload => some (.requested payload.id)
  | permissionResolved payload => some (.resolved payload.id)
  | exit _ => some .exit
  | _ => none

/-- The signals of a history, in order. -/
def signals (history : List SequencedEvent) : List Signal :=
  history.filterMap fun event => event.event.signal?

/-- What the manager believes of a session. -/
structure Vitals where
  running : Bool
  exitReported : Bool
  pending : Option String
  status : SessionStatus
  deriving DecidableEq

def Session.vitals (session : Session C) : Vitals where
  running := session.running
  exitReported := session.exitReported
  pending := session.pendingPermission.map (·.id)
  status := session.summary.status

/-- The belief and the signals so far. -/
abbrev Pulse := Vitals × List Signal

/-- The pulse after one more signal. -/
def Pulse.signal (pulse : Pulse) (signal : Option Signal) : Pulse :=
  match signal with
  | none => pulse
  | some (.status status) => ({ pulse.1 with status }, pulse.2 ++ [.status status])
  | some signal => (pulse.1, pulse.2 ++ [signal])

/-- The pulse of a session. -/
def World.pulse (world : World S C) (id : SessionId) : Option Pulse :=
  (world.inner.sessions.lookup id).map fun session =>
    (session.vitals, signals (appendedTo id world.effects))

/-! ## beats -/

/-- What can happen to a session. -/
inductive Beat where
  | prompted
  | answered
  | cancelled
  | requested (id : String)
  | turnEnded
  | failed
  /-- The agent reports its exit. -/
  | exited
  /-- The manager reports the exit of an agent that no longer runs. -/
  | vanished
  deriving DecidableEq

/-- What a beat makes of a session. -/
def Beat.step (beat : Beat) (pulse : Pulse) : Pulse :=
  let (vitals, sent) := pulse
  match beat with
  | prompted => ({ vitals with status := .working }, sent ++ [.status .working])
  | answered =>
      ({ vitals with pending := none, status := .working },
        sent ++ (vitals.pending.map Signal.resolved).toList ++ [.status .working])
  | cancelled => ({ vitals with pending := none, status := .idle }, sent ++ [.status .idle])
  | requested id =>
      ({ vitals with pending := some id, status := .waitingPermission },
        sent ++ [.requested id, .status .waitingPermission])
  | turnEnded => ({ vitals with status := .idle }, sent ++ [.status .idle])
  | failed => ({ vitals with status := .failed }, sent ++ [.status .failed])
  | exited | vanished =>
      ({ vitals with running := false, exitReported := true, status := .exited },
        sent ++ [.exit, .status .exited])

/-- The beat of an agent event. -/
def AgentEvent.beat? : AgentEvent → Option Beat
  | permissionRequest request => some (.requested request.permissionId)
  | turnEnded _ => some .turnEnded
  | exited _ _ => some .exited
  | failed _ => some .failed
  | _ => none

/-! ## pulses of programs -/

theorem World.pulse_eq_none {world : World S C} {id : SessionId}
    (h : world.inner.sessions.lookup id = none) : world.pulse id = none := by
  rw [World.pulse, h, Option.map_none]

/-- From `world` to `world'` the pulse of the session changes by `f`, and no other
pulse changes. -/
structure World.Pulses (id : SessionId) (f : Pulse → Pulse) (world world' : World S C) : Prop where
  self : world'.pulse id = (world.pulse id).map f
  others : ∀ other, other ≠ id → world'.pulse other = world.pulse other

namespace World.Pulses

variable {id : SessionId} {f g : Pulse → Pulse} {world world' world'' : World S C}

theorem trans (h : Pulses id f world world') (h' : Pulses id g world' world'') :
    Pulses id (g ∘ f) world world'' := by
  constructor
  · rw [h'.self, h.self, Option.map_map]
  · intro other hother
    rw [h'.others other hother, h.others other hother]

/-- First something that changes no pulse. -/
theorem still_trans (h : Pulses id (fun pulse => pulse) world world')
    (h' : Pulses id g world' world'') : Pulses id g world world'' :=
  h.trans h'

/-- Neither the sessions nor the histories change. -/
theorem still (hsessions : world'.inner.sessions = world.inner.sessions)
    (hhistory : ∀ other, appendedTo other world'.effects = appendedTo other world.effects) :
    Pulses id (fun pulse => pulse) world world' := by
  have hpulse : ∀ other, world'.pulse other = world.pulse other := by
    intro other
    rw [World.pulse, hsessions, hhistory other]
    rfl
  exact ⟨by rw [hpulse, Option.map_id'], fun other _ => hpulse other⟩

/-- What happens to the pulse there is. -/
theorem congr (h : Pulses id f world world')
    (hfg : ∀ pulse, world.pulse id = some pulse → f pulse = g pulse) :
    Pulses id g world world' := by
  refine ⟨?_, h.others⟩
  rw [h.self]
  cases hpulse : world.pulse id with
  | none => rfl
  | some pulse => rw [Option.map_some, Option.map_some, hfg pulse hpulse]

/-- Nothing happens to a pulse that is not there. -/
theorem of_unknown (h : Pulses id f world world')
    (hlookup : world.inner.sessions.lookup id = none) : Pulses id g world world' := by
  refine h.congr fun pulse hpulse => ?_
  rw [World.pulse_eq_none hlookup] at hpulse
  contradiction

end World.Pulses

namespace Manager

/-- In any state the program changes the pulse of the session by `f`; it fails only
if there is no such session. -/
def Pulses {α : Type} (id : SessionId) (f : Pulse → Pulse) (m : Manager S C α) : Prop :=
  ∀ world, World.Pulses id f world (m.final world) ∧
    ∀ error, m.result world = .error error → world.pulse id = none

section

variable {α β : Type} {id : SessionId} {f g : Pulse → Pulse}

theorem Pulses.congr {m : Manager S C α} (h : Pulses id f m) (hfg : ∀ pulse, f pulse = g pulse) :
    Pulses id g m := by
  rw [← funext hfg]
  exact h

theorem pulses_bind {m : Manager S C α} {k : α → Manager S C β} (hm : Pulses id f m)
    (hk : ∀ a, Pulses id g (k a)) : Pulses id (g ∘ f) (m >>= k) := by
  intro world
  obtain ⟨hfirst, hfails⟩ := hm world
  rw [final] at hfirst
  rw [result] at hfails
  rw [result, final_bind, exec_bind]
  cases hexec : m.exec world with
  | mk outcome between =>
      rw [hexec] at hfirst hfails
      cases outcome with
      | ok a =>
          obtain ⟨hsecond, hfails'⟩ := hk a between
          refine ⟨hfirst.trans hsecond, fun error herror => ?_⟩
          have hnone := hfails' error herror
          rw [hfirst.self, Option.map_eq_none_iff] at hnone
          exact hnone
      | error error =>
          have hnone := hfails error rfl
          refine ⟨⟨?_, hfirst.others⟩, fun _ _ => hnone⟩
          have hself := hfirst.self
          rw [hnone, Option.map_none] at hself
          rw [hnone, Option.map_none]
          exact hself

/-- First something that changes no pulse. -/
theorem pulses_still_bind {m : Manager S C α} {k : α → Manager S C β}
    (hm : Pulses id (fun pulse => pulse) m) (hk : ∀ a, Pulses id g (k a)) :
    Pulses id g (m >>= k) :=
  pulses_bind hm hk

theorem pulses_still {m : Manager S C α} (hfinal : ∀ world,
      (m.final world).inner.sessions = world.inner.sessions ∧
        (m.final world).effects = world.effects)
    (hok : ∀ world, ∃ a, m.result world = .ok a) : Pulses id (fun pulse => pulse) m := by
  intro world
  obtain ⟨hsessions, heffects⟩ := hfinal world
  obtain ⟨a, ha⟩ := hok world
  refine ⟨.still hsessions fun other => by rw [heffects], fun error herror => ?_⟩
  rw [ha] at herror
  contradiction

theorem pulses_pure (a : α) : Pulses id (fun pulse => pulse) (pure a : Manager S C α) :=
  pulses_still (fun _ => ⟨rfl, rfl⟩) fun _ => ⟨a, rfl⟩

theorem pulses_nowMs : Pulses id (fun pulse => pulse) (nowMs : Manager S C Int) :=
  pulses_still (fun _ => ⟨rfl, rfl⟩) fun _ => ⟨_, rfl⟩

theorem pulses_lookupSession (sessionId : SessionId) :
    Pulses id (fun pulse => pulse) (lookupSession sessionId : Manager S C _) :=
  pulses_still (fun _ => ⟨rfl, rfl⟩) fun _ => ⟨_, rfl⟩

theorem pulses_contentBlock (content : NormalizedContent) :
    Pulses id (fun pulse => pulse) (contentBlock content : Manager S C _) :=
  pulses_still (fun _ => ⟨rfl, rfl⟩) fun _ => ⟨_, rfl⟩

theorem pulses_toolContent (content : NormalizedToolContent) :
    Pulses id (fun pulse => pulse) (toolContent content : Manager S C _) :=
  pulses_still (fun _ => ⟨rfl, rfl⟩) fun _ => ⟨_, rfl⟩

theorem pulses_foldl {xs : List α} {k : α → Manager S C β} {react : Pulse → α → Pulse}
    (hk : ∀ a, Pulses id (fun pulse => react pulse a) (k a)) :
    Pulses id (fun pulse => xs.foldl react pulse) (xs.mapM k) := by
  induction xs with
  | nil => exact pulses_pure _
  | cons x xs ih =>
      rw [List.mapM_cons]
      exact pulses_bind (hk x) fun _ => pulses_bind ih fun _ => pulses_pure _

theorem pulses_mapM {xs : List α} {k : α → Manager S C β}
    (hk : ∀ a, Pulses id (fun pulse => pulse) (k a)) :
    Pulses id (fun pulse => pulse) (xs.mapM k) :=
  Pulses.congr (pulses_foldl hk) fun _ => List.foldl_fixed xs

/-- Whether a program fails does not matter to the pulses. -/
theorem pulses_attempt {m : Manager S C α} (hm : Pulses id f m) : Pulses id f m.attempt :=
  fun world => ⟨(hm world).1, fun error herror => by contradiction⟩

theorem pulses_requireSession :
    Pulses id (fun pulse => pulse) (requireSession id : Manager S C _) := by
  intro world
  cases hlookup : world.inner.sessions.lookup id with
  | none =>
      have hpulse := World.pulse_eq_none hlookup
      rw [final, exec_requireSession_none hlookup]
      exact ⟨.still rfl fun _ => rfl, fun _ _ => hpulse⟩
  | some session =>
      rw [final, result, exec_requireSession hlookup]
      exact ⟨.still rfl fun _ => rfl, fun error herror => by contradiction⟩

/-- A new value of a session that exists. -/
theorem pulses_setSession {world : World S C} {session session' : Session C}
    (hlookup : world.inner.sessions.lookup id = some session) (change : Vitals → Vitals)
    (hvitals : session'.vitals = change session.vitals) :
    World.Pulses id (fun pulse => (change pulse.1, pulse.2)) world (world.setSession id session') := by
  constructor
  · have hlookup' : (world.setSession id session').inner.sessions.lookup id = some session' :=
      AList.lookup_insert _
    rw [World.pulse, World.pulse, hlookup, hlookup', Option.map_some, Option.map_some,
      Option.map_some, hvitals]
    rfl
  · intro other hother
    have hlookup' : (world.setSession id session').inner.sessions.lookup other =
        world.inner.sessions.lookup other := AList.lookup_insert_ne hother
    rw [World.pulse, World.pulse, hlookup']
    rfl

theorem pulses_modifySession {change : Session C → Session C} (change' : Vitals → Vitals)
    (hvitals : ∀ session : Session C, (change session).vitals = change' session.vitals) :
    Pulses id (fun pulse => (change' pulse.1, pulse.2))
      (modifySession id change : Manager S C Unit) := by
  intro world
  cases hlookup : world.inner.sessions.lookup id with
  | none =>
      have hpulse := World.pulse_eq_none hlookup
      have hexec : (modifySession id change : Manager S C Unit).exec world = (.ok (), world) := by
        rw [modifySession, exec_bind, exec_lookupSession]
        dsimp only
        rw [hlookup]
        rfl
      rw [final, hexec]
      exact ⟨⟨by rw [hpulse, Option.map_none], fun _ _ => rfl⟩, fun _ _ => hpulse⟩
  | some session =>
      have hexec : (modifySession id change : Manager S C Unit).exec world =
          (.ok (), world.setSession id (change session)) := by
        rw [modifySession, exec_bind, exec_lookupSession]
        dsimp only
        rw [hlookup]
        rfl
      rw [final, result, hexec]
      exact ⟨pulses_setSession hlookup change' (hvitals session), fun error herror => by contradiction⟩

/-- A program that the session's agent must grant first. -/
theorem pulses_call_bind {world : World S C} {session : Session C}
    (hlookup : world.inner.sessions.lookup id = some session)
    (request : C → Except AcpError α × C) {k : α → Manager S C β} (hk : ∀ a, Pulses id g (k a)) :
    World.Pulses id (if (request session.connection).1.toBool then g else fun pulse => pulse) world
      ((call id request >>= k).final world) := by
  have hset : World.Pulses id (fun pulse => pulse) world
      (world.setSession id { session with connection := (request session.connection).2 }) :=
    pulses_setSession hlookup (fun vitals => vitals) rfl
  rw [final_bind, exec_call hlookup]
  cases (request session.connection).1 with
  | error error => exact hset
  | ok a => exact hset.trans (hk a _).1

theorem signals_append (history history' : List SequencedEvent) :
    signals (history ++ history') = signals history ++ signals history' :=
  List.filterMap_append

variable [SessionStore S]

theorem pulses_persistSession :
    Pulses id (fun pulse => pulse) (persistSession id : Manager S C Unit) := by
  intro world
  cases hlookup : world.inner.sessions.lookup id with
  | none =>
      have hexec : (persistSession id : Manager S C Unit).exec world = (.ok (), world) := by
        rw [persistSession, exec_bind, exec_lookupSession]
        dsimp only
        rw [hlookup]
        rfl
      rw [final, result, hexec]
      exact ⟨.still rfl fun _ => rfl, fun error herror => by contradiction⟩
  | some session =>
      rw [final, result, exec_persistSession hlookup]
      refine ⟨.still rfl fun other => ?_, fun error herror => by contradiction⟩
      rw [World.wrote, appendedTo_append]
      exact List.append_nil _

theorem pulses_append (event : SessionEvent) :
    Pulses id (fun pulse => pulse.signal event.signal?)
      (append id event : Manager S C SequencedEvent) := by
  intro world
  cases hlookup : world.inner.sessions.lookup id with
  | none =>
      have hpulse := World.pulse_eq_none hlookup
      have hexec : (append id event : Manager S C _).exec world =
          (.error (.unknownSession id), world) := by
        rw [append, exec_bind, exec_requireSession_none hlookup]
      rw [final, hexec]
      exact ⟨⟨by rw [hpulse, Option.map_none], fun _ _ => rfl⟩, fun _ _ => hpulse⟩
  | some session =>
      rw [final, result, exec_append hlookup]
      refine ⟨⟨?_, fun other hother => ?_⟩, fun error herror => by contradiction⟩
      · have hlookup' : (world.appended id session (world.nextEvent session event)).inner.sessions.lookup
            id = some (session.record world.inner.journalLimit (world.nextEvent session event)) :=
          AList.lookup_insert _
        have hhistory : appendedTo id
            (world.appended id session (world.nextEvent session event)).effects =
              appendedTo id world.effects ++ [world.nextEvent session event] := by
          rw [World.appended, appendedTo_append, appendedTo_appended, if_pos rfl]
        rw [World.pulse, World.pulse, hlookup, hlookup', hhistory, signals_append]
        cases event <;> simp [Pulse.signal, SessionEvent.signal?, signals, World.nextEvent,
          Session.record, Session.vitals, SessionEvent.status?]
      · have hlookup' : (world.appended id session (world.nextEvent session event)).inner.sessions.lookup
            other = world.inner.sessions.lookup other := AList.lookup_insert_ne hother
        have hhistory : appendedTo other
            (world.appended id session (world.nextEvent session event)).effects =
              appendedTo other world.effects := by
          rw [World.appended, appendedTo_append, appendedTo_appended, if_neg (Ne.symm hother),
            List.append_nil]
        rw [World.pulse, World.pulse, hlookup', hhistory]

theorem pulses_append_unit (event : SessionEvent) :
    Pulses id (fun pulse => pulse.signal event.signal?)
      (do let _ ← append id event : Manager S C Unit) :=
  pulses_bind (pulses_append event) fun _ => pulses_pure _

theorem pulses_append_append (event event' : SessionEvent) :
    Pulses id (fun pulse => (pulse.signal event.signal?).signal event'.signal?)
      (do let _ ← append id event
          let _ ← append id event' : Manager S C Unit) :=
  pulses_bind (pulses_append event) fun _ => pulses_append_unit event'

/-- The pulse of a session after an agent event. -/
theorem pulses_applyAgentEvent (event : AgentEvent) :
    Pulses id (fun pulse => event.beat?.elim pulse fun beat => beat.step pulse)
      (applyAgentEvent id event : Manager S C Unit) := by
  have hsame : ∀ session session' : Session C, session'.running = session.running →
      session'.exitReported = session.exitReported →
      session'.pendingPermission = session.pendingPermission →
      session'.summary.status = session.summary.status → session'.vitals = session.vitals := by
    intro session session' hrunning hreported hpending hstatus
    rw [Session.vitals, Session.vitals, hrunning, hreported, hpending, hstatus]
  have hsilent : ∀ payload : SessionEvent, payload.signal? = none →
      Pulses id (fun pulse => pulse) (do let _ ← append id payload : Manager S C Unit) := by
    intro payload hpayload
    refine (pulses_append_unit payload).congr fun pulse => ?_
    rw [hpayload]
    rfl
  cases event with
  | message role content =>
      exact pulses_bind (pulses_contentBlock content) fun _ => hsilent _ rfl
  | thought content =>
      refine Pulses.congr (pulses_bind pulses_nowMs fun now => pulses_bind
        (pulses_modifySession (fun vitals => vitals) fun session => hsame _ _ rfl rfl rfl rfl)
        fun _ => pulses_bind (pulses_contentBlock content) fun _ => hsilent _ rfl) ?_
      exact fun _ => rfl
  | toolCall update =>
      exact pulses_bind (pulses_mapM pulses_toolContent) fun _ => hsilent _ rfl
  | plan plan => exact hsilent _ rfl
  | availableCommands commands => exact hsilent _ rfl
  | configOptions options =>
      refine Pulses.congr (pulses_bind (pulses_modifySession (fun vitals => vitals)
        fun session => hsame _ _ rfl rfl rfl rfl) fun _ => hsilent _ rfl) ?_
      exact fun _ => rfl
  | sessionInfo update =>
      refine Pulses.congr (pulses_bind (pulses_modifySession (fun vitals => vitals)
        fun session => ?_) fun _ => hsilent _ rfl) ?_
      · split <;> exact hsame _ _ rfl rfl rfl rfl
      · exact fun _ => rfl
  | usage usage => exact hsilent _ rfl
  | mode currentModeId =>
      refine Pulses.congr (pulses_bind (pulses_modifySession (fun vitals => vitals)
        fun session => hsame _ _ rfl rfl rfl rfl) fun _ => hsilent _ rfl) ?_
      exact fun _ => rfl
  | permissionRequest request =>
      refine Pulses.congr (pulses_bind
        (pulses_modifySession (fun vitals => { vitals with pending := some request.permissionId })
          fun session => rfl) fun _ => pulses_append_append _ _) ?_
      intro pulse
      show (_, (pulse.2 ++ [_]) ++ [_]) = (_, pulse.2 ++ [_, _])
      rw [List.append_assoc]
      rfl
  | diagnostics level message => exact hsilent _ rfl
  | turnEnded stopReason =>
      have hended : ∀ payload, Pulses id (fun pulse => pulse) (do
          let _ ← append id (.turnEnded payload)
          if stopReason ≠ .endTurn then
            let _ ← append id (.diagnostics {
              level := .info
              message := "turn ended: " ++ stopReasonName stopReason }) : Manager S C Unit) := by
        intro payload
        have happend : Pulses id (fun pulse => pulse)
            (append id (.turnEnded payload) : Manager S C SequencedEvent) :=
          pulses_append (.turnEnded payload)
        refine pulses_still_bind happend fun _ => ?_
        by_cases hend : stopReason = .endTurn
        · rw [if_neg (not_not.mpr hend)]
          exact pulses_pure _
        · rw [if_pos hend]
          exact hsilent _ rfl
      refine Pulses.congr (pulses_bind (pulses_lookupSession id) fun session => pulses_bind
        (pulses_modifySession (fun vitals => vitals) fun session => ?_)
        fun _ => pulses_bind (pulses_append (.status ⟨.idle⟩)) fun _ => hended _) ?_
      · exact hsame _ _ rfl rfl rfl rfl
      · exact fun _ => rfl
  | exited code reason =>
      refine Pulses.congr (pulses_bind (pulses_modifySession
        (fun vitals => { vitals with running := false, exitReported := true }) fun session => rfl)
        fun _ => pulses_append_append _ _) ?_
      intro pulse
      show (_, (pulse.2 ++ [_]) ++ [_]) = (_, pulse.2 ++ [_, _])
      rw [List.append_assoc]
      rfl
  | failed message =>
      refine Pulses.congr (pulses_append_append _ _) ?_
      intro pulse
      rfl

/-- The pulse of a session after the manager has seen that its agent is gone. -/
theorem pulses_ensureExited :
    Pulses id (fun pulse => if pulse.1.exitReported then pulse else Beat.vanished.step pulse)
      (ensureExited id : Manager S C Unit) := by
  have hvanished : Pulses id Beat.vanished.step (do
      modifySession id fun session => { session with running := false, exitReported := true }
      let _ ← append id (.exit { code := none, reason := "agent_exited" })
      let _ ← append id (.status ⟨.exited⟩) : Manager S C Unit) := by
    refine Pulses.congr (pulses_bind (pulses_modifySession
      (fun vitals => { vitals with running := false, exitReported := true })
      fun session => rfl) fun _ => pulses_append_append _ _) ?_
    intro pulse
    show (_, (pulse.2 ++ [_]) ++ [_]) = (_, pulse.2 ++ [_, _])
    rw [List.append_assoc]
    rfl
  intro world
  cases hlookup : world.inner.sessions.lookup id with
  | none =>
      have hpulse := World.pulse_eq_none hlookup
      have hexec : (ensureExited id : Manager S C Unit).exec world = (.ok (), world) := by
        rw [ensureExited, exec_bind, exec_lookupSession]
        dsimp only
        rw [hlookup]
        rfl
      rw [final, hexec]
      exact ⟨⟨by rw [hpulse, Option.map_none], fun _ _ => rfl⟩, fun _ _ => hpulse⟩
  | some session =>
      have hpulse : world.pulse id =
          some (session.vitals, signals (appendedTo id world.effects)) := by
        rw [World.pulse, hlookup, Option.map_some]
      by_cases hreported : session.exitReported = true
      · have hexec : (ensureExited id : Manager S C Unit).exec world = (.ok (), world) := by
          rw [ensureExited, exec_bind, exec_lookupSession]
          dsimp only
          rw [hlookup]
          dsimp only
          rw [if_pos hreported]
          rfl
        rw [final, result, hexec]
        refine ⟨⟨?_, fun _ _ => rfl⟩, fun error herror => by contradiction⟩
        rw [hpulse, Option.map_some]
        show some _ = some (if session.exitReported then _ else _)
        rw [if_pos hreported]
      · have hexec : (ensureExited id : Manager S C Unit).exec world = (do
            modifySession id fun session => { session with running := false, exitReported := true }
            let _ ← append id (.exit { code := none, reason := "agent_exited" })
            let _ ← append id (.status ⟨.exited⟩) : Manager S C Unit).exec world := by
          rw [ensureExited, exec_bind, exec_lookupSession]
          dsimp only
          rw [hlookup]
          dsimp only
          rw [if_neg hreported]
        obtain ⟨hpulses, hfails⟩ := hvanished world
        rw [final, result, hexec]
        refine ⟨hpulses.congr fun pulse h => ?_, hfails⟩
        rw [hpulse, Option.some.injEq] at h
        rw [← h]
        show _ = if session.exitReported then _ else _
        rw [if_neg hreported]

end

end Manager

/-! ## the pulse after a call -/

section

variable [AcpSession C]

/-- The session exists and is as `p` says. -/
def World.has (world : World S C) (id : SessionId) (p : Session C → Bool) : Bool :=
  (world.inner.sessions.lookup id).any p

/-- The beat a call is. -/
def World.beat? (world : World S C) : Call C → Option (SessionId × Beat)
  | .sendPrompt id text =>
      if world.has id fun session =>
          session.running && (AcpSession.prompt session.connection text).1.toBool then
        some (id, .prompted)
      else none
  | .respondPermission id permissionId optionId =>
      if world.has id fun session => session.pendingPermission.any (·.id = permissionId) &&
          (AcpSession.respondPermission session.connection optionId).1.toBool then
        some (id, .answered)
      else none
  | .cancel id =>
      if world.has id fun session => (AcpSession.cancel session.connection).1.toBool then
        some (id, .cancelled)
      else none
  | .apply id event =>
      if world.has id fun _ => true then event.beat?.map (id, ·) else none
  | .ensureExited id =>
      if world.has id fun session => !session.exitReported then some (id, .vanished) else none
  | _ => none

/-- What a registered session is known by. -/
def Vitals.newborn : Vitals where
  running := true
  exitReported := false
  pending := none
  status := .idle

/-- What a call does to the pulses. -/
inductive World.Feels (world : World S C) (call : Call C) (world' : World S C) : Prop
  | still (hbeat : world.beat? call = none) (h : ∀ id, world'.pulse id = world.pulse id)
  | beat {id : SessionId} {beat : Beat} (hbeat : world.beat? call = some (id, beat))
      (h : World.Pulses id beat.step world world')
  | born {id : SessionId} (hnew : id = world.env.uuid world.ticks)
      (hself : world'.pulse id =
        some (.newborn, signals (appendedTo id world.effects) ++ [.status .idle]))
      (hothers : ∀ other, other ≠ id → world'.pulse other = world.pulse other)

namespace World.Feels

variable {world world' : World S C} {call : Call C} {id : SessionId}

theorem of_still (hbeat : world.beat? call = none)
    (h : World.Pulses id (fun pulse => pulse) world world') : world.Feels call world' := by
  refine .still hbeat fun other => ?_
  by_cases hother : other = id
  · rw [hother, h.self, Option.map_id']
  · exact h.others other hother

theorem of_quiet (hbeat : world.beat? call = none)
    (hsessions : world'.inner.sessions = world.inner.sessions)
    (hhistory : ∀ other, appendedTo other world'.effects = appendedTo other world.effects) :
    world.Feels call world' := by
  refine .still hbeat fun other => ?_
  rw [World.pulse, hsessions, hhistory other]
  rfl

/-- A call that changes nothing. -/
theorem of_eq (hbeat : world.beat? call = none) (h : world' = world) : world.Feels call world' :=
  of_quiet hbeat (by rw [h]) fun _ => by rw [h]

end World.Feels

namespace Manager

variable {world : World S C} {id : SessionId}

/-- A request to the agent after which the session's pulse is what it was. -/
theorem feels_call_bind {α β : Type} {call' : Call C} (hbeat : world.beat? call' = none)
    (request : C → Except AcpError α × C) {k : α → Manager S C β}
    (hk : ∀ a, Pulses id (fun pulse => pulse) (k a)) :
    world.Feels call' ((call id request >>= k).final world) := by
  cases hlookup : world.inner.sessions.lookup id with
  | none =>
      rw [final_bind, call, exec_bind, exec_requireSession_none hlookup]
      exact .of_eq hbeat rfl
  | some session =>
      have hpulses := pulses_call_bind hlookup request hk
      rw [ite_self] at hpulses
      exact .of_still hbeat hpulses

theorem feels_drainSession :
    world.Feels (.drain id) ((drainSession id : Manager S C _).final world) := by
  rw [drainSession, final_bind, exec_lookupSession]
  dsimp only
  cases hlookup : world.inner.sessions.lookup id with
  | none => exact .of_eq rfl rfl
  | some session =>
      exact .of_still rfl (pulses_setSession hlookup (fun vitals => vitals) rfl)

theorem feels_subscribe :
    world.Feels (.subscribe id) ((subscribe id : Manager S C Nat).final world) := by
  cases hlookup : world.inner.sessions.lookup id with
  | none =>
      rw [subscribe, final_bind, exec_requireSession_none hlookup]
      exact .of_eq rfl rfl
  | some session =>
      rw [final, exec_subscribe (mem_of_lookup hlookup)]
      refine .of_quiet rfl rfl fun other => ?_
      rw [World.subscribed, appendedTo_append]
      exact List.append_nil _

variable [SessionStore S]

theorem feels_sendPrompt (text : String) :
    world.Feels (.sendPrompt id text) ((sendPrompt id text : Manager S C Unit).final world) := by
  rw [sendPrompt, final_bind]
  cases hlookup : world.inner.sessions.lookup id with
  | none =>
      rw [exec_requireSession_none hlookup]
      exact .of_eq (by simp [World.beat?, World.has, hlookup]) rfl
  | some session =>
      rw [exec_requireSession hlookup]
      dsimp only
      by_cases hrunning : session.running = true
      · rw [if_pos hrunning]
        have hprompted : ∀ _ : Unit, Pulses id (Beat.prompted.step) (do
            modifySession id fun session =>
              { session with reasoningStartedAtMs := none, reasoningEndedAtMs := none }
            let block ← contentBlock (.text text)
            let _ ← append id (.message { role := .user, text, blocks := [block] })
            let _ ← append id (.status ⟨.working⟩) : Manager S C Unit) := by
          intro _
          have hmodify : Pulses id (fun pulse => pulse) (modifySession id fun session =>
              { session with reasoningStartedAtMs := none, reasoningEndedAtMs := none } :
                Manager S C Unit) :=
            pulses_modifySession (fun vitals => vitals) fun session => rfl
          refine pulses_still_bind hmodify fun _ => pulses_still_bind (pulses_contentBlock _)
            fun block => ?_
          exact Pulses.congr (pulses_append_append _ _) fun _ => rfl
        have hpulses := pulses_call_bind hlookup (AcpSession.prompt · text) hprompted
        by_cases hgranted : (AcpSession.prompt session.connection text).1.toBool = true
        · rw [if_pos hgranted] at hpulses
          exact .beat (by simp [World.beat?, World.has, hlookup, hrunning, hgranted]) hpulses
        · rw [if_neg hgranted] at hpulses
          exact .of_still (by simp [World.beat?, World.has, hlookup, hgranted]) hpulses
      · rw [if_neg hrunning]
        exact .of_eq (by simp [World.beat?, World.has, hlookup, hrunning]) rfl

theorem feels_cancel :
    world.Feels (.cancel id) ((cancel id : Manager S C Unit).final world) := by
  cases hlookup : world.inner.sessions.lookup id with
  | none =>
      rw [cancel, final_bind, call, exec_bind, exec_requireSession_none hlookup]
      exact .of_eq (by simp [World.beat?, World.has, hlookup]) rfl
  | some session =>
      have hcancelled : ∀ _ : Unit, Pulses id (Beat.cancelled.step) (do
          modifySession id fun session => { session with pendingPermission := none }
          let _ ← append id
            (.diagnostics { level := .info, message := "cancellation requested" })
          let _ ← append id (.status ⟨.idle⟩) : Manager S C Unit) := by
        intro _
        refine Pulses.congr (pulses_bind (pulses_modifySession
          (fun vitals => { vitals with pending := none }) fun session => rfl)
          fun _ => pulses_append_append _ _) ?_
        exact fun _ => rfl
      have hpulses := pulses_call_bind hlookup AcpSession.cancel hcancelled
      by_cases hgranted : (AcpSession.cancel session.connection).1.toBool = true
      · rw [if_pos hgranted] at hpulses
        exact .beat (by simp [World.beat?, World.has, hlookup, hgranted]) hpulses
      · rw [if_neg hgranted] at hpulses
        exact .of_still (by simp [World.beat?, World.has, hlookup, hgranted]) hpulses

theorem feels_respondPermission (permissionId optionId : String) :
    world.Feels (.respondPermission id permissionId optionId)
      ((respondPermission id permissionId optionId : Manager S C Unit).final world) := by
  rw [respondPermission, final_bind]
  cases hlookup : world.inner.sessions.lookup id with
  | none =>
      rw [exec_requireSession_none hlookup]
      exact .of_eq (by simp [World.beat?, World.has, hlookup]) rfl
  | some session =>
      rw [exec_requireSession hlookup]
      dsimp only
      cases hpending : session.pendingPermission with
      | none => exact .of_eq (by simp [World.beat?, World.has, hlookup, hpending]) rfl
      | some pending =>
          dsimp only
          by_cases hid : pending.id = permissionId
          · rw [if_neg (not_not.mpr hid)]
            have hanswered : ∀ _ : Unit, Pulses id (fun pulse => Beat.answered.step
                  ({ pulse.1 with pending := some pending.id }, pulse.2)) (do
                modifySession id fun session => { session with pendingPermission := none }
                let _ ← append id (.permissionResolved { id := pending.id, optionId })
                let _ ← append id (.status ⟨.working⟩) : Manager S C Unit) := by
              intro _
              refine Pulses.congr (pulses_bind (pulses_modifySession
                (fun vitals => { vitals with pending := none }) fun session => rfl)
                fun _ => pulses_append_append _ _) ?_
              exact fun _ => rfl
            have hpulses := pulses_call_bind hlookup (AcpSession.respondPermission · optionId)
              hanswered
            by_cases hgranted :
                (AcpSession.respondPermission session.connection optionId).1.toBool = true
            · rw [if_pos hgranted] at hpulses
              have hbeat : world.beat? (.respondPermission id permissionId optionId) =
                  some (id, .answered) := by
                simp [World.beat?, World.has, hlookup, hpending, hid, hgranted]
              refine .beat hbeat (hpulses.congr fun pulse hpulse => ?_)
              rw [World.pulse, hlookup, Option.map_some, Option.some.injEq] at hpulse
              have hvitals : ({ pulse.1 with pending := some pending.id } : Vitals) = pulse.1 := by
                rw [← hpulse]
                simp [Session.vitals, hpending]
              rw [hvitals]
            · rw [if_neg hgranted] at hpulses
              exact .of_still (by simp [World.beat?, World.has, hlookup, hgranted]) hpulses
          · rw [if_pos hid]
            exact .of_eq (by simp [World.beat?, World.has, hlookup, hpending, hid]) rfl

theorem feels_applyAgentEvent (event : AgentEvent) :
    world.Feels (.apply id event) ((applyAgentEvent id event : Manager S C Unit).final world) := by
  have hpulses : World.Pulses id (fun pulse => event.beat?.elim pulse fun beat => beat.step pulse)
      world ((applyAgentEvent id event : Manager S C Unit).final world) :=
    (pulses_applyAgentEvent event world).1
  cases hlookup : world.inner.sessions.lookup id with
  | none =>
      exact .of_still (by simp [World.beat?, World.has, hlookup]) (hpulses.of_unknown hlookup)
  | some session =>
      cases hbeat : event.beat? with
      | none =>
          rw [hbeat] at hpulses
          exact .of_still (by simp [World.beat?, World.has, hlookup, hbeat]) hpulses
      | some beat =>
          rw [hbeat] at hpulses
          exact .beat (by simp [World.beat?, World.has, hlookup, hbeat]) hpulses

theorem feels_ensureExited :
    world.Feels (.ensureExited id) ((ensureExited id : Manager S C Unit).final world) := by
  have hpulses : World.Pulses id
      (fun pulse => if pulse.1.exitReported then pulse else Beat.vanished.step pulse) world
      ((ensureExited id : Manager S C Unit).final world) := (pulses_ensureExited world).1
  cases hlookup : world.inner.sessions.lookup id with
  | none =>
      exact .of_still (by simp [World.beat?, World.has, hlookup]) (hpulses.of_unknown hlookup)
  | some session =>
      have hvitals : ∀ pulse, world.pulse id = some pulse →
          pulse.1.exitReported = session.exitReported := by
        intro pulse hpulse
        rw [World.pulse, hlookup, Option.map_some, Option.some.injEq] at hpulse
        rw [← hpulse]
        rfl
      by_cases hreported : session.exitReported = true
      · refine .of_still (by simp [World.beat?, World.has, hlookup, hreported])
          (hpulses.congr fun pulse hpulse => ?_)
        rw [if_pos ((hvitals pulse hpulse).trans hreported)]
      · have hbeat : world.beat? (.ensureExited id) = some (id, .vanished) := by
          simp [World.beat?, World.has, hlookup, hreported]
        refine .beat hbeat (hpulses.congr fun pulse hpulse => ?_)
        rw [if_neg (hvitals pulse hpulse ▸ hreported)]

theorem feels_setMode (modeId : String) :
    world.Feels (.setMode id modeId) ((setMode id modeId : Manager S C Unit).final world) :=
  feels_call_bind rfl _ fun _ => pulses_still_bind
    (pulses_modifySession (fun vitals => vitals) fun _ => rfl) fun _ =>
      pulses_append_unit (.mode ⟨modeId⟩)

theorem feels_setConfigOption (configId valueId : String) :
    world.Feels (.setConfigOption id configId valueId)
      ((setConfigOption id configId valueId : Manager S C Unit).final world) :=
  feels_call_bind rfl _ fun options => pulses_still_bind
    (pulses_modifySession (fun vitals => vitals) fun _ => rfl) fun _ =>
      pulses_append_unit (.configOptions ⟨options⟩)

theorem feels_renameSession (title : String) :
    world.Feels (.renameSession id title) ((renameSession id title : Manager S C _).final world) := by
  unfold renameSession
  dsimp only
  split
  · exact .of_eq rfl rfl
  · rw [final_bind]
    cases hlookup : world.inner.sessions.lookup id with
    | none =>
        rw [exec_requireSession_none hlookup]
        exact .of_eq rfl rfl
    | some session =>
        rw [exec_requireSession hlookup]
        dsimp only
        rw [final_bind, exec_setSession]
        dsimp only
        have hset : World.Pulses id (fun pulse => pulse) world (world.setSession id
            { session with summary := { session.summary with title := trim title } }) :=
          pulses_setSession hlookup (fun vitals => vitals) rfl
        refine .of_still rfl (hset.still_trans ?_)
        have hsnapshot : ∀ payload, Pulses id (fun pulse => pulse) (do
            let _ ← append id (.snapshot payload)
            let session ← requireSession id
            pure session.summary : Manager S C _) := by
          intro payload
          have happend : Pulses id (fun pulse => pulse)
              (append id (.snapshot payload) : Manager S C SequencedEvent) :=
            pulses_append (.snapshot payload)
          exact pulses_still_bind happend fun _ =>
            pulses_still_bind pulses_requireSession fun _ => pulses_pure _
        exact (hsnapshot _ _).1

theorem feels_archiveSession (archived : Bool) :
    world.Feels (.archiveSession id archived)
      ((archiveSession id archived : Manager S C _).final world) := by
  rw [archiveSession, final_bind, exec_lookupSession]
  dsimp only
  cases hlookup : world.inner.sessions.lookup id with
  | some session =>
      dsimp only
      rw [final_bind, exec_setSession]
      dsimp only
      have hset : World.Pulses id (fun pulse => pulse) world (world.setSession id
          { session with summary := { session.summary with archived } }) :=
        pulses_setSession hlookup (fun vitals => vitals) rfl
      have hpersist : Pulses id (fun pulse => pulse) (do
          persistSession id
          pure { session.summary with archived } : Manager S C _) :=
        pulses_still_bind pulses_persistSession fun _ => pulses_pure _
      exact .of_still rfl (hset.still_trans (hpersist _).1)
  | none =>
      dsimp only
      rw [final_bind, exec_get]
      dsimp only
      cases hrecovered : world.inner.recovered.lookup id with
      | none => exact .of_eq rfl rfl
      | some session =>
          rcases final_archiveRecovered world id session archived with
            hfinal | ⟨stored, -, hfinal⟩
          · dsimp only
            rw [hfinal]
            exact .of_quiet rfl rfl fun _ => rfl
          · dsimp only
            rw [hfinal]
            refine .of_quiet rfl rfl fun other => ?_
            rw [World.wrote, appendedTo_append]
            exact List.append_nil _

theorem feels_enrollSession (build : SessionId → Session C)
    (hnewborn : ∀ id, (build id).Newborn id) :
    world.Feels (.enroll build hnewborn) ((enrollSession build : Manager S C _).final world) := by
  have hhistory : ∀ other, appendedTo other (world.registered build).effects =
      appendedTo other world.effects := by
    intro other
    show appendedTo other (world.effects ++ [_]) = _
    rw [appendedTo_append]
    exact List.append_nil _
  have hlookup : (world.registered build).inner.sessions.lookup (world.env.uuid world.ticks) =
      some (build (world.env.uuid world.ticks)) := AList.lookup_insert _
  have hothers : ∀ other, other ≠ world.env.uuid world.ticks →
      (world.registered build).inner.sessions.lookup other =
        world.inner.sessions.lookup other := fun other hother => AList.lookup_insert_ne hother
  have hfinal : (enrollSession build : Manager S C _).final world =
      (append (world.env.uuid world.ticks) (.status ⟨.idle⟩) : Manager S C _).final
        (world.registered build) := by
    rw [enrollSession, final_bind, exec_registerSession]
    exact final_bind_pure _ _ _
  have happend : Pulses (world.env.uuid world.ticks)
      (fun pulse => pulse.signal (some (.status .idle)))
      (append (world.env.uuid world.ticks) (.status ⟨.idle⟩) : Manager S C _) :=
    pulses_append (.status ⟨.idle⟩)
  have hpulses := (happend (world.registered build)).1
  rw [hfinal]
  refine .born rfl ?_ fun other hother => ?_
  · have hvitals : (build (world.env.uuid world.ticks)).vitals = .newborn := by
      have h := hnewborn (world.env.uuid world.ticks)
      rw [Session.vitals, h.running, h.exitReported, h.pendingPermission, h.status]
      rfl
    rw [hpulses.self, World.pulse, hlookup, Option.map_some, Option.map_some, hhistory, hvitals]
    rfl
  · rw [hpulses.others other hother, World.pulse, hothers other hother, hhistory]
    rfl

end Manager

/-- **Every call is at most one beat**, or the start of a session. -/
theorem pulse_call [SessionStore S] (world : World S C) (call : Call C) :
    world.Feels call ((call.run : Manager S C Unit).final world) := by
  cases call with
  | tick => exact .of_quiet rfl rfl fun _ => rfl
  | request kind =>
      refine .of_quiet rfl rfl fun other => ?_
      rw [Call.run, final, Manager.exec_note, appendedTo_append]
      exact List.append_nil _
  | enroll build hnewborn =>
      rw [Call.run, final_discard]
      exact Manager.feels_enrollSession build hnewborn
  | drain id =>
      rw [Call.run, final_discard]
      exact Manager.feels_drainSession
  | apply id event => exact Manager.feels_applyAgentEvent event
  | ensureExited id => exact Manager.feels_ensureExited
  | sendPrompt id text => exact Manager.feels_sendPrompt text
  | setMode id modeId => exact Manager.feels_setMode modeId
  | setConfigOption id configId valueId => exact Manager.feels_setConfigOption configId valueId
  | cancel id => exact Manager.feels_cancel
  | respondPermission id permissionId optionId =>
      exact Manager.feels_respondPermission permissionId optionId
  | renameSession id title =>
      rw [Call.run, final_discard]
      exact Manager.feels_renameSession title
  | archiveSession id archived =>
      rw [Call.run, final_discard]
      exact Manager.feels_archiveSession archived
  | subscribe id =>
      rw [Call.run, final_discard]
      exact Manager.feels_subscribe

end

end Slight
