import Slight.Session.Manager

/-!
# Slight.Session.Calls

The calls an operation of the manager consists of.  A `Call` is one request of a
client, one drain of an agent, one event applied, or a part of opening a
session; every operation is a chain of calls (`performs_calls`), so whatever
each call preserves holds after every operation.
-/

namespace Slight

open Support Program

variable {S C : Type}

/-- A session as it is registered. -/
structure Session.Newborn (session : Session C) (sessionId : SessionId) : Prop where
  id : session.summary.id = sessionId
  lastSequence : session.summary.lastSequence = 0
  status : session.summary.status = .idle
  recovery : session.summary.recovery = .live
  journal : session.journal = []
  pendingPermission : session.pendingPermission = none
  running : session.running = true
  exitReported : session.exitReported = false

/-- One call of the manager. -/
inductive Call (C : Type) where
  | tick
  | request (kind : OpenKind)
  | enroll (build : SessionId → Session C) (hnewborn : ∀ id, (build id).Newborn id)
  | drain (sessionId : SessionId)
  | apply (sessionId : SessionId) (event : AgentEvent)
  | ensureExited (sessionId : SessionId)
  | sendPrompt (sessionId : SessionId) (text : String)
  | setMode (sessionId : SessionId) (modeId : String)
  | setConfigOption (sessionId : SessionId) (configId valueId : String)
  | cancel (sessionId : SessionId)
  | respondPermission (sessionId : SessionId) (permissionId optionId : String)
  | renameSession (sessionId : SessionId) (title : String)
  | archiveSession (sessionId : SessionId) (archived : Bool)
  | subscribe (sessionId : SessionId)

section

variable [SessionStore S] [AcpSession C]

/-- The call's program. -/
def Call.run : Call C → Manager S C Unit
  | tick => do let _ ← Manager.tick
  | request kind => Manager.note (.requested kind)
  | enroll build _ => do let _ ← Manager.enrollSession build
  | drain sessionId => do let _ ← Manager.drainSession sessionId
  | apply sessionId event => Manager.applyAgentEvent sessionId event
  | ensureExited sessionId => Manager.ensureExited sessionId
  | sendPrompt sessionId text => Manager.sendPrompt sessionId text
  | setMode sessionId modeId => Manager.setMode sessionId modeId
  | setConfigOption sessionId configId valueId =>
      Manager.setConfigOption sessionId configId valueId
  | cancel sessionId => Manager.cancel sessionId
  | respondPermission sessionId permissionId optionId =>
      Manager.respondPermission sessionId permissionId optionId
  | renameSession sessionId title => do let _ ← Manager.renameSession sessionId title
  | archiveSession sessionId archived => do let _ ← Manager.archiveSession sessionId archived
  | subscribe sessionId => do let _ ← Manager.subscribe sessionId

/-- A call takes the state from `world` to `world'`. -/
def Calls (world world' : World S C) : Prop :=
  ∃ call : Call C, world' = (call.run : Manager S C Unit).final world

namespace Manager

/-- A program that is a call. -/
theorem performs_call_run {m : Manager S C Unit} (call : Call C) (h : call.run = m) :
    m.Performs Calls :=
  performs_of_step fun _ => ⟨call, by rw [h]⟩

/-- A program that is a call, but for what it returns. -/
theorem performs_call_discard {α : Type} {m : Manager S C α} (call : Call C)
    (h : call.run = do let _ ← m) : m.Performs Calls :=
  performs_of_step fun world => ⟨call, by rw [h, final_discard]⟩

/-! ### opening sessions -/

theorem performs_tick : (tick : Manager S C Nat).Performs Calls :=
  performs_call_discard .tick rfl

theorem performs_detectGitBranch (directory : String) :
    (detectGitBranch directory : Manager S C _).Performs Calls :=
  performs_bind performs_get fun _ => performs_bind performs_tick fun _ => performs_pure _

theorem performs_spawnSession (adapter : AgentAdapter C) (launch : AgentLaunchConfig) :
    (spawnSession adapter launch : Manager S C _).Performs Calls :=
  performs_bind performs_tick fun _ => performs_pure _

theorem performs_answered {α : Type} (answer : Except AcpError α × C) :
    (answered answer : Manager S C _).Performs Calls := by
  match answer with
  | (.ok _, _) => exact performs_pure _
  | (.error _, _) => exact performs_throw _

theorem performs_bindSession (kind : OpenKind) (initialized : InitializeSummary) (connection : C)
    (workingDirectory : String) :
    (bindSession kind initialized connection workingDirectory : Manager S C _).Performs Calls := by
  have hrequest : ∀ (kind : OpenKind) (answer : Except AcpError SessionMetadata × C),
      (note (.requested kind) >>= fun _ => answered answer : Manager S C _).Performs Calls :=
    fun kind answer => performs_bind (performs_call_run (.request kind) rfl) fun _ =>
      performs_answered answer
  cases kind with
  | new => exact hrequest _ _
  | load agentSessionId =>
      unfold bindSession
      dsimp only
      split
      · exact hrequest _ _
      · exact performs_throw _
  | resume agentSessionId =>
      unfold bindSession
      dsimp only
      split
      · exact hrequest _ _
      · exact performs_throw _

/-! ### pumping -/

omit [AcpSession C] in
theorem performs_applyDrained_of {R : World S C → World S C → Prop}
    (happly : ∀ id event, (applyAgentEvent id event : Manager S C Unit).Performs R)
    (hexited : ∀ id, (ensureExited id : Manager S C Unit).Performs R)
    (drained : SessionId × List AgentEvent × Bool) :
    (applyDrained drained : Manager S C Nat).Performs R := by
  obtain ⟨sessionId, events, running⟩ := drained
  refine performs_bind (performs_mapM fun event => performs_attempt (happly sessionId event))
    fun _ => ?_
  cases running with
  | true => exact performs_pure _
  | false =>
      exact performs_bind (performs_attempt (hexited sessionId)) fun _ => performs_pure _

/-- A pump drains agents, applies events and reports exits. -/
theorem performs_pumpAll_of {R : World S C → World S C → Prop}
    (hdrain : ∀ id, (drainSession id : Manager S C _).Performs R)
    (happly : ∀ id event, (applyAgentEvent id event : Manager S C Unit).Performs R)
    (hexited : ∀ id, (ensureExited id : Manager S C Unit).Performs R) :
    (pumpAll : Manager S C Nat).Performs R :=
  performs_bind performs_get fun _ => performs_bind (performs_mapM hdrain) fun _ =>
    performs_bind (performs_mapM (performs_applyDrained_of happly hexited)) fun _ =>
      performs_pure _

theorem performs_pumpAll : (pumpAll : Manager S C Nat).Performs Calls :=
  performs_pumpAll_of (fun id => performs_call_discard (.drain id) rfl)
    (fun id event => performs_call_run (.apply id event) rfl)
    fun id => performs_call_run (.ensureExited id) rfl

/-! ### operations -/

theorem performs_openSession (agent : AgentKind) (workingDirectoryLabel title : String)
    (model effort initialPrompt : Option String) (kind : OpenKind) (origin : SessionOrigin) :
    (openSession agent workingDirectoryLabel title model effort initialPrompt kind origin :
      Manager S C _).Performs Calls := by
  have hsummary : ∀ (id : SessionId) (summary : SessionSummary),
      (do let session ← lookupSession id
          pure ((session.map (·.summary)).getD summary) : Manager S C _).Performs Calls :=
    fun id summary => performs_of_final_eq fun world => rfl
  refine performs_bind performs_get fun world => ?_
  cases world.inner.adapters.get agent with
  | none => exact performs_throw _
  | some adapter =>
      refine performs_bind (performs_spawnSession _ _) fun spawned => ?_
      cases spawned with
      | error error => exact performs_throw _
      | ok connection =>
          refine performs_bind (performs_answered _) fun (initialized, connection) => ?_
          refine performs_bind (performs_bindSession _ _ _ _) fun (metadata, connection) => ?_
          refine performs_bind (performs_call_discard .tick rfl) fun now => ?_
          refine performs_bind (performs_detectGitBranch _) fun gitBranch => ?_
          refine performs_bind (performs_call_discard (.enroll _ fun id =>
            ⟨rfl, rfl, rfl, rfl, rfl, rfl, rfl, rfl⟩) rfl) fun id => ?_
          cases initialPrompt with
          | none => exact hsummary id _
          | some prompt =>
              refine performs_bind (performs_call_run (.sendPrompt id prompt) rfl) fun _ => ?_
              exact performs_bind performs_pumpAll fun _ => hsummary id _

theorem performs_importSession (request : ImportSessionRequest) :
    (importSession request : Manager S C _).Performs Calls := by
  unfold importSession
  split
  refine performs_bind (performs_openSession _ _ _ _ _ _ _ _) fun summary => ?_
  exact performs_bind performs_pumpAll fun _ => performs_of_final_eq fun world => rfl

omit [SessionStore S] [AcpSession C] in
/-- Reading the sessions changes nothing. -/
theorem performs_attach {R : World S C → World S C → Prop} (sessionId : SessionId)
    (afterSequence : Option Nat) : (attach sessionId afterSequence : Manager S C _).Performs R := by
  refine performs_bind performs_get fun world => ?_
  split
  · exact performs_pure _
  · split
    · exact performs_pure _
    · exact performs_throw _

omit [SessionStore S] [AcpSession C] in
theorem performs_history {R : World S C → World S C → Prop} (sessionId : SessionId)
    (beforeSequence : Option Nat) (limit : Nat) :
    (history sessionId beforeSequence limit : Manager S C _).Performs R := by
  refine performs_bind performs_get fun world => ?_
  split
  · exact performs_pure _
  · split
    · exact performs_pure _
    · exact performs_throw _

end Manager

/-- **Every operation is a chain of calls.** -/
theorem Operation.performs_calls (operation : Operation) :
    (operation.run : Manager S C Unit).Performs Calls := by
  have hpumped : ∀ {m : Manager S C Unit} (call : Call C), call.run = m →
      (do m; let _ ← Manager.pumpAll : Manager S C Unit).Performs Calls :=
    fun call h => performs_bind (Manager.performs_call_run call h) fun _ =>
      performs_discard Manager.performs_pumpAll
  cases operation with
  | createSession request => exact performs_discard (Manager.performs_openSession _ _ _ _ _ _ _ _)
  | importSession request => exact performs_discard (Manager.performs_importSession request)
  | sendInput sessionId text => exact hpumped (.sendPrompt sessionId text) rfl
  | cancel sessionId => exact hpumped (.cancel sessionId) rfl
  | respondPermission sessionId permissionId optionId =>
      exact hpumped (.respondPermission sessionId permissionId optionId) rfl
  | renameSession sessionId title =>
      exact Manager.performs_call_run (.renameSession sessionId title) rfl
  | archiveSession sessionId archived =>
      exact Manager.performs_call_run (.archiveSession sessionId archived) rfl
  | setMode sessionId modeId => exact Manager.performs_call_run (.setMode sessionId modeId) rfl
  | setConfigOption sessionId configId valueId =>
      exact Manager.performs_call_run (.setConfigOption sessionId configId valueId) rfl
  | attach sessionId afterSequence => exact performs_discard (Manager.performs_attach _ _)
  | history sessionId beforeSequence limit =>
      exact performs_discard (Manager.performs_history _ _ _)
  | subscribe sessionId => exact Manager.performs_call_run (.subscribe sessionId) rfl
  | pump => exact performs_discard Manager.performs_pumpAll

end

end Slight
