import Slight.Session.Journal

/-!
# Slight.Session.Failures

What an operation that fails leaves behind.  A command to a session asks the agent
first and changes the session after the agent has agreed, when nothing can fail any
more; so a command that fails has moved nothing but the agent.  Opening a session
fails before the session is registered, unless it brings an initial prompt that the
agent refuses.
-/

namespace Slight

open Support Program

variable {S C : Type}

theorem World.AgentsMove.refl (world : World S C) : world.AgentsMove world :=
  ⟨rfl, rfl, rfl, rfl, rfl, rfl, rfl, rfl, fun _ => rfl⟩

/-- A request to an agent moves that agent. -/
theorem World.AgentsMove.setConnection {world : World S C} {sessionId : SessionId}
    {session : Session C} (hlookup : world.inner.sessions.lookup sessionId = some session)
    (connection : C) :
    world.AgentsMove (world.setSession sessionId { session with connection }) := by
  refine ⟨rfl, rfl, rfl, rfl, rfl, rfl, rfl, rfl, fun id => ?_⟩
  by_cases hid : id = sessionId
  · rw [hid, World.setSession, AList.lookup_insert, hlookup]
    rfl
  · rw [World.setSession, AList.lookup_insert_ne hid]

namespace Manager

/-! ## what cannot fail -/

section

variable {sessionId : SessionId}

theorem completes_setSession (sessionId : SessionId) (session : Session C) {id : SessionId} :
    (setSession sessionId session : Manager S C Unit).Completes
      fun world => id ∈ world.inner.sessions :=
  fun _ hmem => ⟨(), _, rfl, (AList.mem_insert _).mpr (.inr hmem)⟩

theorem completes_modifySession (change : Session C → Session C) :
    (modifySession sessionId change : Manager S C Unit).Completes
      fun world => sessionId ∈ world.inner.sessions := by
  refine completes_bind (fun world hmem => ⟨_, world, rfl, hmem⟩) fun session => ?_
  cases session with
  | none => exact completes_pure _
  | some session => exact completes_setSession _ _

theorem completes_requireSession :
    (requireSession sessionId : Manager S C _).Completes
      fun world => sessionId ∈ world.inner.sessions := by
  intro world hmem
  obtain ⟨session, hlookup⟩ := exists_lookup_of_mem hmem
  exact ⟨session, world, exec_requireSession hlookup, hmem⟩

theorem completes_contentBlock (content : NormalizedContent) :
    (contentBlock content : Manager S C _).Completes
      fun world => sessionId ∈ world.inner.sessions :=
  fun _ hmem => ⟨_, _, rfl, hmem⟩

variable [SessionStore S]

/-- Appending to a session that exists does not fail. -/
theorem completes_append (event : SessionEvent) :
    (append sessionId event : Manager S C _).Completes
      fun world => sessionId ∈ world.inner.sessions := by
  intro world hmem
  obtain ⟨session, hlookup⟩ := exists_lookup_of_mem hmem
  exact ⟨_, _, exec_append hlookup event, (AList.mem_insert _).mpr (.inl rfl)⟩

theorem completes_persistSession :
    (persistSession sessionId : Manager S C Unit).Completes
      fun world => sessionId ∈ world.inner.sessions := by
  refine completes_bind (fun world hmem => ⟨_, world, rfl, hmem⟩) fun session => ?_
  cases session with
  | none => exact completes_pure _
  | some session => exact fun world hmem => ⟨_, _, rfl, hmem⟩

theorem completes_archiveRecovered (session : RecoveredSession) (archived : Bool) :
    (archiveRecovered sessionId session archived : Manager S C _).Completes fun _ => True := by
  intro world _
  unfold archiveRecovered
  simp only [exec_bind, exec_get, exec_set]
  split
  · exact ⟨_, _, rfl, trivial⟩
  · exact ⟨_, _, rfl, trivial⟩

theorem completes_append_append (event event' : SessionEvent) :
    (do let _ ← append sessionId event
        let _ ← append sessionId event' : Manager S C Unit).Completes
      fun world => sessionId ∈ world.inner.sessions :=
  completes_bind (completes_append event) fun _ => completes_discard (completes_append event')

variable [AcpSession C]

/-- **A pump** does not fail, whatever it drains. -/
theorem completes_pumpAll : (pumpAll : Manager S C Nat).Completes fun _ => True := by
  refine completes_bind completes_get fun world => ?_
  refine completes_bind (completes_mapM fun id => ?_) fun collected => ?_
  · refine completes_bind (fun world _ => ⟨_, world, rfl, trivial⟩) fun session => ?_
    cases session with
    | none => exact completes_pure _
    | some session => exact fun world _ => ⟨_, _, rfl, trivial⟩
  · refine completes_bind (completes_mapM fun drained => ?_) fun _ => completes_pure _
    obtain ⟨sessionId, events, running⟩ := drained
    refine completes_bind (completes_mapM fun event =>
      completes_attempt fun _ _ => trivial) fun _ => ?_
    cases running with
    | true => exact completes_pure _
    | false =>
        exact completes_bind (completes_attempt fun _ _ => trivial) fun _ => completes_pure _

end

/-! ## commands that fail -/

section

variable {α β : Type} {sessionId : SessionId} {world : World S C} {error : SessionError}

/-- What follows a request and does not fail once the session's agent has answered adds no
failure. -/
theorem failed_call_bind {request : C → Except AcpError α × C} {f : α → Manager S C β}
    (hf : ∀ a, (f a).Completes fun world => sessionId ∈ world.inner.sessions)
    (h : (call sessionId request >>= f).result world = .error error) :
    (call sessionId request : Manager S C α).result world = .error error ∧
      (call sessionId request >>= f).final world =
        (call sessionId request : Manager S C α).final world := by
  refine failed_bind (fun a t hexec => ?_) h
  cases hlookup : world.inner.sessions.lookup sessionId with
  | none =>
      rw [exec_call_none hlookup] at hexec
      cases hexec
  | some session =>
      have ht : t = _ := (Prod.mk.inj (hexec.symm.trans (exec_call hlookup request))).2
      have hmem : sessionId ∈ t.inner.sessions := by
        rw [ht]
        exact (AList.mem_insert _).mpr (.inl rfl)
      obtain ⟨b, u, hexec', -⟩ := hf a t hmem
      exact ⟨b, by rw [result, hexec']⟩

theorem agentsMove_call {request : C → Except AcpError α × C} {f : α → Manager S C β}
    (hf : ∀ a, (f a).Completes fun world => sessionId ∈ world.inner.sessions)
    (h : (call sessionId request >>= f).result world = .error error) :
    world.AgentsMove ((call sessionId request >>= f).final world) := by
  rw [(failed_call_bind hf h).2, final]
  cases hlookup : world.inner.sessions.lookup sessionId with
  | none =>
      rw [exec_call_none hlookup]
      exact .refl world
  | some session =>
      rw [exec_call hlookup]
      exact .setConnection hlookup _

/-- A session that is required is there, or nothing has happened. -/
theorem agentsMove_requireSession {f : Session C → Manager S C β}
    (hf : ∀ session, world.inner.sessions.lookup sessionId = some session →
      (f session).result world = .error error → world.AgentsMove ((f session).final world))
    (h : (requireSession sessionId >>= f).result world = .error error) :
    world.AgentsMove ((requireSession sessionId >>= f).final world) := by
  cases hlookup : world.inner.sessions.lookup sessionId with
  | none =>
      rw [final_bind, exec_requireSession_none hlookup]
      exact .refl world
  | some session =>
      have hexec := exec_requireSession hlookup
      rw [result, exec_bind, hexec] at h
      rw [final_bind, hexec]
      exact hf session hlookup h

variable [SessionStore S] [AcpSession C]

theorem agentsMove_sendPrompt {text : String}
    (h : (sendPrompt sessionId text : Manager S C Unit).result world = .error error) :
    world.AgentsMove ((sendPrompt sessionId text : Manager S C Unit).final world) := by
  refine agentsMove_requireSession (fun session _ hsession => ?_) h
  by_cases hrunning : session.running = true
  · rw [if_pos hrunning] at hsession ⊢
    refine agentsMove_call (fun _ => ?_) hsession
    refine completes_bind (completes_modifySession _) fun _ => ?_
    exact completes_bind (completes_contentBlock _) fun _ => completes_append_append _ _
  · rw [if_neg hrunning]
    exact .refl world

theorem agentsMove_setMode {modeId : String}
    (h : (setMode sessionId modeId : Manager S C Unit).result world = .error error) :
    world.AgentsMove ((setMode sessionId modeId : Manager S C Unit).final world) :=
  agentsMove_call (fun _ => completes_bind (completes_modifySession _) fun _ =>
    completes_discard (completes_append _)) h

theorem agentsMove_setConfigOption {configId valueId : String}
    (h : (setConfigOption sessionId configId valueId : Manager S C Unit).result world =
      .error error) :
    world.AgentsMove ((setConfigOption sessionId configId valueId : Manager S C Unit).final world) :=
  agentsMove_call (fun _ => completes_bind (completes_modifySession _) fun _ =>
    completes_discard (completes_append _)) h

theorem agentsMove_cancel
    (h : (cancel sessionId : Manager S C Unit).result world = .error error) :
    world.AgentsMove ((cancel sessionId : Manager S C Unit).final world) :=
  agentsMove_call (fun _ => completes_bind (completes_modifySession _) fun _ =>
    completes_append_append _ _) h

theorem agentsMove_respondPermission {permissionId optionId : String}
    (h : (respondPermission sessionId permissionId optionId : Manager S C Unit).result world =
      .error error) :
    world.AgentsMove
      ((respondPermission sessionId permissionId optionId : Manager S C Unit).final world) := by
  refine agentsMove_requireSession (fun session _ hsession => ?_) h
  cases hpending : session.pendingPermission with
  | none => exact .refl world
  | some pending =>
      rw [hpending] at hsession
      dsimp only at hsession ⊢
      by_cases hid : pending.id = permissionId
      · rw [if_neg (not_not.mpr hid)] at hsession ⊢
        exact agentsMove_call (fun _ => completes_bind (completes_modifySession _) fun _ =>
          completes_append_append _ _) hsession
      · rw [if_pos hid]
        exact .refl world

omit [AcpSession C] in
/-- Renaming fails before anything changes. -/
theorem agentsMove_renameSession {title : String}
    (h : (renameSession sessionId title : Manager S C _).result world = .error error) :
    world.AgentsMove ((renameSession sessionId title : Manager S C _).final world) := by
  unfold renameSession at h ⊢
  dsimp only at h ⊢
  by_cases hempty : trim title = ""
  · rw [if_pos hempty]
    exact .refl world
  · rw [if_neg hempty] at h ⊢
    refine agentsMove_requireSession (fun session hlookup hsession => ?_) h
    have hmem : sessionId ∈ world.inner.sessions :=
      mem_of_lookup hlookup
    refine absurd hsession (Completes.result_ne_error (I := fun world => sessionId ∈ world.inner.sessions)
      ?_ hmem error)
    refine completes_bind (completes_setSession _ _) fun _ => ?_
    refine completes_bind (completes_append _) fun _ => ?_
    exact completes_bind completes_requireSession fun _ => completes_pure _

omit [AcpSession C] in
/-- Archiving fails for unknown sessions only. -/
theorem agentsMove_archiveSession {archived : Bool}
    (h : (archiveSession sessionId archived : Manager S C _).result world = .error error) :
    world.AgentsMove ((archiveSession sessionId archived : Manager S C _).final world) := by
  rw [archiveSession, result, exec_bind, exec_lookupSession] at h
  rw [archiveSession, final_bind, exec_lookupSession]
  cases hlookup : world.inner.sessions.lookup sessionId with
  | some session =>
      rw [hlookup] at h
      have hmem : sessionId ∈ world.inner.sessions :=
        mem_of_lookup hlookup
      refine absurd h (Completes.result_ne_error (I := fun world => sessionId ∈ world.inner.sessions)
      ?_ hmem error)
      refine completes_bind (completes_setSession _ _) fun _ => ?_
      exact completes_bind completes_persistSession fun _ => completes_pure _
  | none =>
      rw [hlookup] at h
      dsimp only at h ⊢
      rw [exec_bind, exec_get] at h
      rw [final_bind, exec_get]
      dsimp only at h ⊢
      cases hrecovered : world.inner.recovered.lookup sessionId with
      | none => exact .refl world
      | some session =>
          rw [hrecovered] at h
          exact absurd h ((completes_archiveRecovered session archived).result_ne_error trivial error)

end

end Manager

/-- The commands to a session that exists. -/
def Operation.isCommand : Operation → Bool
  | sendInput .. | cancel .. | respondPermission .. | renameSession .. | archiveSession .. |
    setMode .. | setConfigOption .. => true
  | _ => false

/-- **A command that fails** changes nothing: no session but for its connection to the
agent, no subscriber, and not the store. -/
theorem failed_command_changes_nothing [SessionStore S] [AcpSession C] {operation : Operation}
    (hcommand : operation.isCommand = true) {world : World S C} {error : SessionError}
    (h : (operation.run : Manager S C Unit).result world = .error error) :
    world.AgentsMove ((operation.run : Manager S C Unit).final world) := by
  have hpumped : ∀ {m : Manager S C Unit},
      (m.result world = .error error → world.AgentsMove (m.final world)) →
      (do m; let _ ← Manager.pumpAll : Manager S C Unit).result world = .error error →
      world.AgentsMove ((do m; let _ ← Manager.pumpAll : Manager S C Unit).final world) := by
    intro m hm hfails
    obtain ⟨hfirst, hfinal⟩ := failed_bind_of_completes
      (fun _ => completes_discard Manager.completes_pumpAll) hfails
    rw [hfinal]
    exact hm hfirst
  have hdiscarded : ∀ {α : Type} {m : Manager S C α},
      (m.result world = .error error → world.AgentsMove (m.final world)) →
      (do let _ ← m : Manager S C Unit).result world = .error error →
      world.AgentsMove ((do let _ ← m : Manager S C Unit).final world) := by
    intro α m hm hfails
    obtain ⟨hfirst, hfinal⟩ := failed_bind_of_completes (fun _ => completes_pure _) hfails
    rw [hfinal]
    exact hm hfirst
  cases operation with
  | sendInput sessionId text => exact hpumped Manager.agentsMove_sendPrompt h
  | cancel sessionId => exact hpumped Manager.agentsMove_cancel h
  | respondPermission sessionId permissionId optionId =>
      exact hpumped Manager.agentsMove_respondPermission h
  | renameSession sessionId title => exact hdiscarded Manager.agentsMove_renameSession h
  | archiveSession sessionId archived => exact hdiscarded Manager.agentsMove_archiveSession h
  | setMode sessionId modeId => exact Manager.agentsMove_setMode h
  | setConfigOption sessionId configId valueId => exact Manager.agentsMove_setConfigOption h
  | createSession request => cases hcommand
  | importSession request => cases hcommand
  | attach sessionId afterSequence => cases hcommand
  | history sessionId beforeSequence limit => cases hcommand
  | subscribe sessionId => cases hcommand
  | pump => cases hcommand

/-- An answer to a permission that nobody asked for. -/
theorem failed_command_changes_nothing_unasked :
    (sampleManager.after (.createSession sampleRequest)).AgentsMove
      ((sampleManager.after (.createSession sampleRequest)).after
        (.respondPermission "uuu" "p" "allow")) := by
  have hrefused : ((Operation.respondPermission "uuu" "p" "allow").run :
      Manager SqliteStore ScriptedAgent Unit).result
        (sampleManager.after (.createSession sampleRequest)) =
      .error (.noPendingPermission "uuu") := by decide +kernel
  exact failed_command_changes_nothing (by rfl) hrefused

end Slight
