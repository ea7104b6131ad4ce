import Slight.Session.Calls
import Slight.Support.Lists

/-!
# Slight.Session.Changes

What a call of the manager can do to its state, said once.  Every call, and so
every operation, is a chain of `Change`s (`performs_run`), so whatever each
change preserves holds after every operation.
-/

namespace Slight

open Support Program

variable {S C : Type}

/-- A session of which only the title, the archived flag and what the manager
remembers of the agent may differ. -/
structure Session.Keeps (session session' : Session C) : Prop where
  summary : ∃ title archived, session'.summary = { session.summary with title, archived }
  journal : session'.journal = session.journal

theorem Session.Keeps.of_eq {session session' : Session C}
    (hsummary : session'.summary = session.summary) (hjournal : session'.journal = session.journal) :
    session.Keeps session' :=
  ⟨⟨session.summary.title, session.summary.archived, hsummary⟩, hjournal⟩

/-- A session of which only the title and what the manager remembers of the agent may
differ; it is still bound to the same agent session. -/
structure Session.Moves (session session' : Session C) : Prop where
  summary : ∃ title, session'.summary = { session.summary with title }
  agentSessionId : session'.agentSessionId = session.agentSessionId
  journal : session'.journal = session.journal

theorem Session.Moves.of_eq {session session' : Session C}
    (hsummary : session'.summary = session.summary)
    (hagent : session'.agentSessionId = session.agentSessionId)
    (hjournal : session'.journal = session.journal) : session.Moves session' :=
  ⟨⟨session.summary.title, hsummary⟩, hagent, hjournal⟩

theorem Session.Moves.keeps {session session' : Session C} (h : session.Moves session') :
    session.Keeps session' := by
  obtain ⟨title, hsummary⟩ := h.summary
  exact ⟨⟨title, session.summary.archived, hsummary⟩, h.journal⟩

/-- A session nothing has happened in. -/
structure Session.Fresh (session : Session C) (sessionId : SessionId) : Prop where
  id : session.summary.id = sessionId
  lastSequence : session.summary.lastSequence = 0
  status : session.summary.status = .idle
  recovery : session.summary.recovery = .live
  journal : session.journal = []

theorem Session.Newborn.fresh {session : Session C} {sessionId : SessionId}
    (h : session.Newborn sessionId) : session.Fresh sessionId :=
  ⟨h.id, h.lastSequence, h.status, h.recovery, h.journal⟩

namespace World

def setSession (world : World S C) (sessionId : SessionId) (session : Session C) : World S C :=
  { world with
    inner := { world.inner with sessions := world.inner.sessions.insert sessionId session } }

/-- The channels of all sessions after an event was sent into those of one. -/
def sentTo (subscribers : AList fun _ : SessionId => List (List SequencedEvent))
    (sessionId : SessionId) (event : SequencedEvent) :
    AList fun _ : SessionId => List (List SequencedEvent) :=
  match subscribers.lookup sessionId with
  | none => subscribers
  | some channels => subscribers.insert sessionId (channels.map fun sent => sent ++ [event])

variable [SessionStore S]

/-- What one call of the store makes of the state. -/
def wrote (world : World S C) (write : StoreWrite) : World S C :=
  { world with
    effects := world.effects ++ [.wrote write]
    inner := { world.inner with store := write.apply world.inner.store } }

/-- The event appended to a session next. -/
def nextEvent (world : World S C) (session : Session C) (event : SessionEvent) : SequencedEvent where
  sequence := session.summary.lastSequence + 1
  timestampMs := world.env.nowMs world.ticks
  event := event

/-- What appending makes of the state. -/
def appended (world : World S C) (sessionId : SessionId) (session : Session C)
    (event : SequencedEvent) : World S C :=
  let session := session.record world.inner.journalLimit event
  { world with
    ticks := world.ticks + 1
    effects := world.effects ++ [.appended sessionId event,
      .wrote (.appendEvent sessionId event.stored), .wrote (.upsertSession session.stored)]
    inner := { world.inner with
      sessions := world.inner.sessions.insert sessionId session
      store := (StoreWrite.upsertSession session.stored).apply
        ((StoreWrite.appendEvent sessionId event.stored).apply world.inner.store)
      subscribers := sentTo world.inner.subscribers sessionId event } }

/-- What registering a session makes of the state: it is named by the next UUID. -/
def registered (world : World S C) (build : SessionId → Session C) : World S C :=
  let sessionId := world.env.uuid world.ticks
  ({ world with ticks := world.ticks + 1 }.setSession sessionId (build sessionId)).wrote
    (.upsertSession (build sessionId).stored)

/-- The channels of a session. -/
def channels (world : World S C) (sessionId : SessionId) : List (List SequencedEvent) :=
  (world.inner.subscribers.lookup sessionId).getD []

/-- What subscribing makes of the state. -/
def subscribed (world : World S C) (sessionId : SessionId) : World S C :=
  { world with
    effects := world.effects ++ [.subscribed sessionId]
    inner := { world.inner with
      subscribers :=
        world.inner.subscribers.insert sessionId (world.channels sessionId ++ [[]]) } }

end World

namespace Manager

section

variable {world : World S C} {sessionId : SessionId} {session : Session C}

@[simp] theorem exec_lookupSession : (lookupSession sessionId : Manager S C _).exec world =
    (.ok (world.inner.sessions.lookup sessionId), world) := rfl

@[simp] theorem exec_setSession : (setSession sessionId session : Manager S C _).exec world =
    (.ok (), world.setSession sessionId session) := rfl

theorem exec_requireSession (h : world.inner.sessions.lookup sessionId = some session) :
    (requireSession sessionId : Manager S C _).exec world = (.ok session, world) := by
  rw [requireSession, exec_bind, exec_lookupSession]
  dsimp only
  rw [h]
  rfl

theorem exec_requireSession_none (h : world.inner.sessions.lookup sessionId = none) :
    (requireSession sessionId : Manager S C _).exec world =
      (.error (.unknownSession sessionId), world) := by
  rw [requireSession, exec_bind, exec_lookupSession]
  dsimp only
  rw [h]
  rfl

/-- **One request** to the agent of a session that exists. -/
theorem exec_call {α : Type} (h : world.inner.sessions.lookup sessionId = some session)
    (request : C → Except AcpError α × C) :
    (call sessionId request : Manager S C α).exec world =
      ((request session.connection).1.mapError .agent,
        world.setSession sessionId { session with connection := (request session.connection).2 }) := by
  rw [call, exec_bind, exec_requireSession h]
  dsimp only
  rw [exec_bind, exec_setSession]
  dsimp only
  cases (request session.connection).1 <;> rfl

/-- A request to the agent of a session that does not exist. -/
theorem exec_call_none {α : Type} (h : world.inner.sessions.lookup sessionId = none)
    (request : C → Except AcpError α × C) :
    (call sessionId request : Manager S C α).exec world =
      (.error (.unknownSession sessionId), world) := by
  rw [call, exec_bind, exec_requireSession_none h]

@[simp] theorem exec_nowMs : (nowMs : Manager S C Int).exec world =
    (.ok (world.env.nowMs world.ticks), { world with ticks := world.ticks + 1 }) := rfl

@[simp] theorem exec_newUuid : (newUuid : Manager S C String).exec world =
    (.ok (world.env.uuid world.ticks), { world with ticks := world.ticks + 1 }) := rfl

@[simp] theorem exec_note (effect : Effect) : (note effect : Manager S C Unit).exec world =
    (.ok (), { world with effects := world.effects ++ [effect] }) := rfl

theorem exec_send (event : SequencedEvent) : (send sessionId event : Manager S C Unit).exec world =
    (.ok (), { world with
      inner := { world.inner with
        subscribers := World.sentTo world.inner.subscribers sessionId event } }) := by
  rw [send, exec_modify, World.sentTo]
  cases world.inner.subscribers.lookup sessionId <;> rfl

variable [SessionStore S]

@[simp] theorem exec_writeStore (write : StoreWrite) :
    (writeStore write : Manager S C Unit).exec world = (.ok (), world.wrote write) := rfl

theorem exec_persistSession (h : world.inner.sessions.lookup sessionId = some session) :
    (persistSession sessionId : Manager S C Unit).exec world =
      (.ok (), world.wrote (.upsertSession session.stored)) := by
  rw [persistSession, exec_bind, exec_lookupSession]
  dsimp only
  rw [h]
  rfl

/-- **Appending** to a session that exists. -/
theorem exec_append (h : world.inner.sessions.lookup sessionId = some session)
    (event : SessionEvent) :
    (append sessionId event : Manager S C _).exec world =
      (.ok (world.nextEvent session event),
        world.appended sessionId session (world.nextEvent session event)) := by
  have hpersist : ∀ world' : World S C, ∀ session' : Session C,
      world'.inner.sessions = world.inner.sessions.insert sessionId session' →
      (persistSession sessionId : Manager S C Unit).exec world' =
        (.ok (), world'.wrote (.upsertSession session'.stored)) := by
    intro world' session' hsessions
    refine exec_persistSession ?_
    rw [hsessions, AList.lookup_insert]
  rw [append, exec_bind, exec_requireSession h]
  simp only [exec_bind, exec_nowMs, exec_get, exec_setSession, exec_note, exec_writeStore]
  rw [hpersist _ _ rfl]
  simp only [exec_send, exec_pure]
  simp only [World.appended, World.wrote, World.setSession, List.append_assoc]
  rfl

theorem exec_registerSession (build : SessionId → Session C) :
    (registerSession build : Manager S C _).exec world =
      (.ok (world.env.uuid world.ticks), world.registered build) := by
  have hlookup : ({ world with ticks := world.ticks + 1 }.setSession
      (world.env.uuid world.ticks) (build (world.env.uuid world.ticks))).inner.sessions.lookup
        (world.env.uuid world.ticks) = some (build (world.env.uuid world.ticks)) :=
    AList.lookup_insert _
  rw [registerSession, exec_bind, exec_newUuid]
  dsimp only
  rw [exec_bind, exec_setSession]
  dsimp only
  rw [exec_bind, exec_persistSession hlookup]
  rfl

/-- **Enrolling** is registering and a first append. -/
theorem final_enrollSession (world : World S C) (build : SessionId → Session C) :
    let sessionId := world.env.uuid world.ticks
    let registered := world.registered build
    (enrollSession build).final world =
      registered.appended sessionId (build sessionId)
        (registered.nextEvent (build sessionId) (.status ⟨.idle⟩)) := by
  intro sessionId registered
  have hlookup : registered.inner.sessions.lookup sessionId = some (build sessionId) :=
    AList.lookup_insert _
  rw [enrollSession, final_bind, exec_registerSession]
  dsimp only
  rw [final_bind, exec_append hlookup]
  rfl

/-- Archiving a session that is not live edits its row in the store. -/
theorem final_archiveRecovered (world : World S C) (sessionId : SessionId)
    (session : RecoveredSession) (archived : Bool) :
    let recovered : World S C := { world with
      inner := { world.inner with
        recovered := world.inner.recovered.insert sessionId
          { session with summary := { session.summary with archived } } } }
    (archiveRecovered sessionId session archived).final world = recovered ∨
      ∃ stored, SessionStore.getSession world.inner.store sessionId = .ok (some stored) ∧
        (archiveRecovered sessionId session archived).final world =
          recovered.wrote (.upsertSession
            { stored with metadata := archiveMetadata stored.metadata archived }) := by
  intro recovered
  rw [final, archiveRecovered, exec_bind, exec_get]
  dsimp only
  rw [exec_bind, exec_set]
  dsimp only
  split
  · next stored hstored => exact .inr ⟨stored, hstored, rfl⟩
  · exact .inl rfl

end

/-- **Subscribing** to a session that exists. -/
theorem exec_subscribe {world : World S C} {sessionId : SessionId}
    (h : sessionId ∈ world.inner.sessions) :
    (subscribe sessionId : Manager S C Nat).exec world =
      (.ok (world.channels sessionId).length, world.subscribed sessionId) := by
  obtain ⟨session, hlookup⟩ := exists_lookup_of_mem h
  rw [subscribe, exec_bind, exec_requireSession hlookup]
  rfl

end Manager

/-! ## changes -/

/-- One change an operation makes. -/
inductive Change [SessionStore S] : World S C → World S C → Prop
  | tick (world : World S C) : Change world { world with ticks := world.ticks + 1 }
  | request (world : World S C) (kind : OpenKind) :
      Change world { world with effects := world.effects ++ [.requested kind] }
  | edit {world : World S C} {sessionId : SessionId} {session session' : Session C}
      (hlookup : world.inner.sessions.lookup sessionId = some session)
      (hkeeps : session.Keeps session') : Change world (world.setSession sessionId session')
  | append {world : World S C} {sessionId : SessionId} {session : Session C}
      (hlookup : world.inner.sessions.lookup sessionId = some session) (event : SessionEvent) :
      Change world (world.appended sessionId session (world.nextEvent session event))
  | persist {world : World S C} {sessionId : SessionId} {session : Session C}
      (hlookup : world.inner.sessions.lookup sessionId = some session) :
      Change world (world.wrote (.upsertSession session.stored))
  | subscribe {world : World S C} {sessionId : SessionId}
      (hmem : sessionId ∈ world.inner.sessions) :
      Change world ((Manager.subscribe sessionId).final world)
  | archive {world : World S C} {sessionId : SessionId} {session : RecoveredSession}
      (hlookup : world.inner.recovered.lookup sessionId = some session) (archived : Bool) :
      Change world ((Manager.archiveRecovered sessionId session archived).final world)
  | enroll (world : World S C) {build : SessionId → Session C}
      (hfresh : ∀ id, (build id).Fresh id) :
      Change world ((Manager.enrollSession build).final world)

/-- One thing done by a call that neither opens nor archives a session. -/
inductive Deed [SessionStore S] : World S C → World S C → Prop
  | tick (world : World S C) : Deed world { world with ticks := world.ticks + 1 }
  | request (world : World S C) (kind : OpenKind) :
      Deed world { world with effects := world.effects ++ [.requested kind] }
  | edit {world : World S C} {sessionId : SessionId} {session session' : Session C}
      (hlookup : world.inner.sessions.lookup sessionId = some session)
      (hmoves : session.Moves session') : Deed world (world.setSession sessionId session')
  | append {world : World S C} {sessionId : SessionId} {session : Session C}
      (hlookup : world.inner.sessions.lookup sessionId = some session) (event : SessionEvent) :
      Deed world (world.appended sessionId session (world.nextEvent session event))
  | subscribe {world : World S C} {sessionId : SessionId}
      (hmem : sessionId ∈ world.inner.sessions) :
      Deed world ((Manager.subscribe sessionId).final world)

theorem Deed.change [SessionStore S] {world world' : World S C} (h : Deed world world') :
    Change world world' := by
  cases h with
  | tick => exact .tick _
  | request kind => exact .request _ kind
  | edit hlookup hmoves => exact .edit hlookup hmoves.keeps
  | append hlookup event => exact .append hlookup event
  | subscribe hmem => exact .subscribe hmem

namespace Manager

section

variable [SessionStore S]

/-! ### primitives -/

theorem performs_nowMs : (nowMs : Manager S C Int).Performs Deed :=
  performs_of_step fun world => .tick world

theorem performs_newUuid : (newUuid : Manager S C String).Performs Deed :=
  performs_of_step fun world => .tick world

theorem performs_contentBlock (content : NormalizedContent) :
    (contentBlock content : Manager S C _).Performs Deed :=
  performs_bind performs_newUuid fun _ => performs_pure _

theorem performs_toolContent (content : NormalizedToolContent) :
    (toolContent content : Manager S C _).Performs Deed :=
  performs_bind performs_newUuid fun _ => performs_pure _

/-! ### sessions -/

omit [SessionStore S] in
/-- What a program does with the session it looks up first. -/
theorem performs_lookupSession_bind {R : World S C → World S C → Prop} {β : Type}
    {sessionId : SessionId} {f : Option (Session C) → Manager S C β}
    (hf : ∀ world : World S C, Relation.ReflTransGen R world
      ((f (world.inner.sessions.lookup sessionId)).final world)) :
    (lookupSession sessionId >>= f).Performs R := by
  intro world
  rw [final_bind, exec_lookupSession]
  exact hf world

/-- What a program does with the session it cannot do without. -/
theorem performs_requireSession_bind {β : Type} {sessionId : SessionId}
    {f : Session C → Manager S C β}
    (hf : ∀ (world : World S C) (session : Session C),
      world.inner.sessions.lookup sessionId = some session →
      Relation.ReflTransGen Deed world ((f session).final world)) :
    (requireSession sessionId >>= f).Performs Deed := by
  intro world
  rw [final_bind]
  cases hlookup : world.inner.sessions.lookup sessionId with
  | none =>
      rw [exec_requireSession_none hlookup]
  | some session =>
      rw [exec_requireSession hlookup]
      exact hf world session hlookup

/-- An edit, and what a program does after it. -/
theorem reaches_setSession_bind {β : Type} {world : World S C} {sessionId : SessionId}
    {session session' : Session C} {f : Unit → Manager S C β}
    (hlookup : world.inner.sessions.lookup sessionId = some session)
    (hmoves : session.Moves session') (hf : (f ()).Performs Deed) :
    Relation.ReflTransGen Deed world
      ((setSession sessionId session' >>= f : Manager S C β).final world) := by
  rw [final_bind, exec_setSession]
  exact .head (.edit hlookup hmoves) (hf _)

theorem performs_modifySession {sessionId : SessionId} {change : Session C → Session C}
    (hmoves : ∀ session : Session C, session.Moves (change session)) :
    (modifySession sessionId change : Manager S C Unit).Performs Deed := by
  refine performs_lookupSession_bind fun world => ?_
  cases hlookup : world.inner.sessions.lookup sessionId with
  | none => exact .refl
  | some session => exact .single (.edit hlookup (hmoves session))

theorem performs_lookupSession (sessionId : SessionId) :
    (lookupSession sessionId : Manager S C _).Performs Deed := fun _ => .refl

theorem performs_requireSession (sessionId : SessionId) :
    (requireSession sessionId : Manager S C _).Performs Deed := by
  intro world
  cases hlookup : world.inner.sessions.lookup sessionId with
  | none => rw [final, exec_requireSession_none hlookup]
  | some session => rw [final, exec_requireSession hlookup]

theorem performs_call {α : Type} (sessionId : SessionId)
    (request : C → Except AcpError α × C) :
    (call sessionId request : Manager S C α).Performs Deed := by
  refine performs_requireSession_bind fun world session hlookup => ?_
  refine reaches_setSession_bind hlookup (.of_eq rfl rfl rfl) ?_
  split
  · exact performs_pure _
  · exact performs_throw _

theorem performs_append (sessionId : SessionId) (event : SessionEvent) :
    (append sessionId event : Manager S C _).Performs Deed := by
  intro world
  cases hlookup : world.inner.sessions.lookup sessionId with
  | none =>
      rw [final, append, exec_bind, exec_requireSession_none hlookup]
  | some session =>
      rw [final, exec_append hlookup]
      exact .single (.append hlookup event)

theorem performs_subscribe (sessionId : SessionId) :
    (subscribe sessionId : Manager S C Nat).Performs Deed := by
  intro world
  cases hlookup : world.inner.sessions.lookup sessionId with
  | none =>
      rw [subscribe, final_bind, exec_requireSession_none hlookup]
  | some session =>
      exact .single (.subscribe (mem_of_lookup hlookup))

/-- Two appends in a row. -/
theorem performs_append_append (sessionId : SessionId) (event event' : SessionEvent) :
    (do let _ ← append sessionId event
        let _ ← append sessionId event' : Manager S C Unit).Performs Deed :=
  performs_bind (performs_append _ _) fun _ =>
    performs_bind (performs_append _ _) fun _ => performs_pure _

/-! ### agent events -/

theorem performs_applyAgentEvent (sessionId : SessionId) (event : AgentEvent) :
    (applyAgentEvent sessionId event : Manager S C Unit).Performs Deed := by
  have hone : ∀ payload, (do let _ ← append sessionId payload : Manager S C Unit).Performs Deed :=
    fun payload => performs_bind (performs_append _ _) fun _ => performs_pure _
  cases event with
  | message role content => exact performs_bind (performs_contentBlock _) fun _ => hone _
  | thought content =>
      refine performs_bind performs_nowMs fun now => ?_
      refine performs_bind (performs_modifySession fun _ => .of_eq rfl rfl rfl) fun _ => ?_
      exact performs_bind (performs_contentBlock _) fun _ => hone _
  | toolCall update =>
      exact performs_bind (performs_mapM performs_toolContent) fun _ => hone _
  | plan plan => exact hone _
  | availableCommands commands => exact hone _
  | configOptions options =>
      exact performs_bind (performs_modifySession fun _ => .of_eq rfl rfl rfl) fun _ => hone _
  | sessionInfo update =>
      refine performs_bind (performs_modifySession fun session => ?_) fun _ => hone _
      split
      · next title _ => exact ⟨⟨title, rfl⟩, rfl, rfl⟩
      · exact .of_eq rfl rfl rfl
  | usage usage => exact hone _
  | mode currentModeId =>
      exact performs_bind (performs_modifySession fun _ => .of_eq rfl rfl rfl) fun _ => hone _
  | permissionRequest request =>
      refine performs_bind (performs_modifySession fun _ => .of_eq rfl rfl rfl) fun _ => ?_
      exact performs_append_append _ _ _
  | diagnostics level message => exact hone _
  | turnEnded stopReason =>
      refine performs_bind (performs_lookupSession _) fun session => ?_
      refine performs_bind (performs_modifySession fun _ => .of_eq rfl rfl rfl) fun _ => ?_
      refine performs_bind (performs_append _ _) fun _ => performs_bind (performs_append _ _) fun _ => ?_
      by_cases hend : stopReason = .endTurn
      · rw [if_neg (not_not.mpr hend)]
        exact performs_pure _
      · rw [if_pos hend]
        exact hone _
  | exited code reason =>
      refine performs_bind (performs_modifySession fun _ => .of_eq rfl rfl rfl) fun _ => ?_
      exact performs_append_append _ _ _
  | failed message => exact performs_append_append _ _ _

theorem performs_ensureExited (sessionId : SessionId) :
    (ensureExited sessionId : Manager S C Unit).Performs Deed := by
  refine performs_bind (performs_lookupSession _) fun session => ?_
  cases session with
  | none => exact performs_pure _
  | some session =>
      dsimp only
      split
      · exact performs_pure _
      · exact performs_bind (performs_modifySession fun _ => .of_eq rfl rfl rfl) fun _ =>
          performs_append_append _ _ _

/-! ### operations -/

theorem performs_renameSession (sessionId : SessionId) (title : String) :
    (renameSession sessionId title : Manager S C _).Performs Deed := by
  unfold renameSession
  dsimp only
  split
  · exact performs_throw _
  · refine performs_requireSession_bind fun world session hlookup => ?_
    refine reaches_setSession_bind hlookup ⟨⟨trim title, rfl⟩, rfl, rfl⟩ ?_
    refine performs_bind (performs_append _ _) fun _ => ?_
    exact performs_bind (performs_requireSession _) fun _ => performs_pure _

variable [AcpSession C]

theorem performs_drainSession (sessionId : SessionId) :
    (drainSession sessionId : Manager S C _).Performs Deed := by
  refine performs_lookupSession_bind fun world => ?_
  cases hlookup : world.inner.sessions.lookup sessionId with
  | none => exact .refl
  | some session =>
      exact reaches_setSession_bind hlookup (.of_eq rfl rfl rfl) (performs_pure _)

theorem performs_sendPrompt (sessionId : SessionId) (text : String) :
    (sendPrompt sessionId text : Manager S C Unit).Performs Deed := by
  refine performs_bind (performs_requireSession _) fun session => ?_
  split
  · refine performs_bind (performs_call _ _) fun _ => ?_
    refine performs_bind (performs_modifySession fun _ => .of_eq rfl rfl rfl) fun _ => ?_
    exact performs_bind (performs_contentBlock _) fun _ => performs_append_append _ _ _
  · exact performs_throw _

theorem performs_setMode (sessionId : SessionId) (modeId : String) :
    (setMode sessionId modeId : Manager S C Unit).Performs Deed :=
  performs_bind (performs_call _ _) fun _ =>
    performs_bind (performs_modifySession fun _ => .of_eq rfl rfl rfl) fun _ =>
      performs_bind (performs_append _ _) fun _ => performs_pure _

theorem performs_setConfigOption (sessionId : SessionId) (configId valueId : String) :
    (setConfigOption sessionId configId valueId : Manager S C Unit).Performs Deed :=
  performs_bind (performs_call _ _) fun _ =>
    performs_bind (performs_modifySession fun _ => .of_eq rfl rfl rfl) fun _ =>
      performs_bind (performs_append _ _) fun _ => performs_pure _

theorem performs_cancel (sessionId : SessionId) :
    (cancel sessionId : Manager S C Unit).Performs Deed :=
  performs_bind (performs_call _ _) fun _ =>
    performs_bind (performs_modifySession fun _ => .of_eq rfl rfl rfl) fun _ =>
      performs_append_append _ _ _

theorem performs_respondPermission (sessionId : SessionId) (permissionId optionId : String) :
    (respondPermission sessionId permissionId optionId : Manager S C Unit).Performs Deed := by
  refine performs_bind (performs_requireSession _) fun session => ?_
  cases session.pendingPermission with
  | none => exact performs_throw _
  | some pending =>
      dsimp only
      by_cases hid : pending.id = permissionId
      · rw [if_neg (not_not.mpr hid)]
        refine performs_bind (performs_call _ _) fun _ => ?_
        exact performs_bind (performs_modifySession fun _ => .of_eq rfl rfl rfl) fun _ =>
          performs_append_append _ _ _
      · rw [if_pos hid]
        exact performs_throw _

theorem performs_pumpAll_deeds : (pumpAll : Manager S C Nat).Performs Deed :=
  performs_pumpAll_of performs_drainSession performs_applyAgentEvent performs_ensureExited

/-! ### opening and archiving -/

omit [AcpSession C] in
theorem performs_persistSession (sessionId : SessionId) :
    (persistSession sessionId : Manager S C Unit).Performs Change := by
  intro world
  cases hlookup : world.inner.sessions.lookup sessionId with
  | none =>
      rw [persistSession, final_bind, exec_lookupSession, hlookup]
      exact .refl
  | some session =>
      rw [final, exec_persistSession hlookup]
      exact .single (.persist hlookup)

omit [AcpSession C] in
theorem performs_archiveSession (sessionId : SessionId) (archived : Bool) :
    (archiveSession sessionId archived : Manager S C _).Performs Change := by
  refine performs_lookupSession_bind fun world => ?_
  cases hlookup : world.inner.sessions.lookup sessionId with
  | some session =>
      have hedit : Change world
          (world.setSession sessionId { session with summary := { session.summary with archived } }) :=
        .edit hlookup ⟨⟨session.summary.title, archived, rfl⟩, rfl⟩
      dsimp only
      rw [final_bind, exec_setSession]
      dsimp only
      rw [final_bind_pure]
      exact .head hedit (performs_persistSession _ _)
  | none =>
      dsimp only
      rw [final_bind, exec_get]
      dsimp only
      cases hrecovered : world.inner.recovered.lookup sessionId with
      | some session => exact .single (.archive hrecovered archived)
      | none => exact .refl

omit [AcpSession C] in
theorem performs_enrollSession {build : SessionId → Session C} (hfresh : ∀ id, (build id).Fresh id) :
    (enrollSession build : Manager S C _).Performs Change :=
  performs_of_step fun world => .enroll world hfresh

end

end Manager

/-- The call neither opens nor archives a session. -/
def Call.isDeed : Call C → Bool
  | enroll .. | archiveSession .. => false
  | _ => true

/-- **Every call** that neither opens nor archives a session is a chain of deeds. -/
theorem Call.performs_deeds [SessionStore S] [AcpSession C] {call : Call C}
    (h : call.isDeed = true) : (call.run : Manager S C Unit).Performs Deed := by
  cases call with
  | tick => exact performs_discard (performs_of_step fun world => .tick world)
  | request kind => exact performs_of_step fun world => .request world kind
  | enroll build hnewborn => contradiction
  | drain sessionId => exact performs_discard (Manager.performs_drainSession sessionId)
  | apply sessionId event => exact Manager.performs_applyAgentEvent sessionId event
  | ensureExited sessionId => exact Manager.performs_ensureExited sessionId
  | sendPrompt sessionId text => exact Manager.performs_sendPrompt sessionId text
  | setMode sessionId modeId => exact Manager.performs_setMode sessionId modeId
  | setConfigOption sessionId configId valueId =>
      exact Manager.performs_setConfigOption sessionId configId valueId
  | cancel sessionId => exact Manager.performs_cancel sessionId
  | respondPermission sessionId permissionId optionId =>
      exact Manager.performs_respondPermission sessionId permissionId optionId
  | renameSession sessionId title =>
      exact performs_discard (Manager.performs_renameSession sessionId title)
  | archiveSession sessionId archived => contradiction
  | subscribe sessionId => exact performs_discard (Manager.performs_subscribe sessionId)

/-- **Every call is a chain of changes.** -/
theorem Call.performs_run [SessionStore S] [AcpSession C] (call : Call C) :
    (call.run : Manager S C Unit).Performs Change := by
  by_cases h : call.isDeed = true
  · exact (call.performs_deeds h).mono fun _ _ hdeed => hdeed.change
  · cases call with
    | enroll build hnewborn =>
        exact performs_discard (Manager.performs_enrollSession fun id => (hnewborn id).fresh)
    | archiveSession sessionId archived =>
        exact performs_discard (Manager.performs_archiveSession sessionId archived)
    | _ => exact absurd rfl h

/-- The operation neither opens nor archives a session. -/
def Operation.isDeed : Operation → Bool
  | createSession _ | importSession _ | archiveSession .. => false
  | _ => true

/-- **Every operation** that neither opens nor archives a session is a chain of deeds. -/
theorem Operation.performs_deeds [SessionStore S] [AcpSession C] {operation : Operation}
    (h : operation.isDeed = true) : (operation.run : Manager S C Unit).Performs Deed := by
  have hpumped : ∀ {m : Manager S C Unit}, m.Performs Deed →
      (do m; let _ ← Manager.pumpAll : Manager S C Unit).Performs Deed :=
    fun hm => performs_bind hm fun _ => performs_discard Manager.performs_pumpAll_deeds
  cases operation with
  | createSession request => contradiction
  | importSession request => contradiction
  | archiveSession sessionId archived => contradiction
  | sendInput sessionId text => exact hpumped (Manager.performs_sendPrompt sessionId text)
  | cancel sessionId => exact hpumped (Manager.performs_cancel sessionId)
  | respondPermission sessionId permissionId optionId =>
      exact hpumped (Manager.performs_respondPermission sessionId permissionId optionId)
  | renameSession sessionId title =>
      exact performs_discard (Manager.performs_renameSession sessionId title)
  | setMode sessionId modeId => exact Manager.performs_setMode sessionId modeId
  | setConfigOption sessionId configId valueId =>
      exact Manager.performs_setConfigOption sessionId configId valueId
  | attach sessionId afterSequence =>
      exact performs_discard (Manager.performs_attach sessionId afterSequence)
  | history sessionId beforeSequence limit =>
      exact performs_discard (Manager.performs_history sessionId beforeSequence limit)
  | subscribe sessionId => exact performs_discard (Manager.performs_subscribe sessionId)
  | pump => exact performs_discard Manager.performs_pumpAll_deeds

/-- **Every operation is a chain of changes.** -/
theorem Operation.performs_run [SessionStore S] [AcpSession C] (operation : Operation) :
    (operation.run : Manager S C Unit).Performs Change := by
  refine operation.performs_calls.refine fun world world' hcall => ?_
  obtain ⟨call, rfl⟩ := hcall
  exact call.performs_run world

end Slight
