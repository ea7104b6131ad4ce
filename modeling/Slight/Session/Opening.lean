import Slight.Session.Failures

/-!
# Slight.Session.Opening

How a session is opened.  `World.opens` is what the adapter and the agent answer up
to the binding of the agent session; `openSession_cases` says that opening fails
there and leaves nothing behind, or registers the session `opening` describes and
goes on with the initial prompt.
-/

namespace Slight

open Support Program

variable {S C : Type}

/-- A request that is granted. -/
def granted {α : Type} : Except AcpError α × C → Option (α × C)
  | (.ok a, connection) => some (a, connection)
  | (.error _, _) => none

/-- What a session is opened with. -/
structure Handshake (C : Type) where
  adapter : AgentAdapter C
  initialized : InitializeSummary
  metadata : SessionMetadata
  connection : C

/-- How an opened session starts. -/
structure Start where
  agent : AgentKind
  workingDirectoryLabel : String
  title : String
  model : Option String
  effort : Option String
  initialPrompt : Option String
  kind : OpenKind
  origin : SessionOrigin
  deriving DecidableEq

section

variable [AcpSession C]

/-- The agent's answer to the request that binds a session. -/
def bindingAnswer (kind : OpenKind) (initialized : InitializeSummary) (connection : C)
    (workingDirectory : String) : Option (SessionMetadata × C) :=
  match kind with
  | .new => granted (AcpSession.newSession connection workingDirectory)
  | .load agentSessionId =>
      if initialized.agentCapabilities.loadSession then
        granted (AcpSession.loadSession connection agentSessionId workingDirectory)
      else none
  | .resume agentSessionId =>
      if initialized.agentCapabilities.sessionResume then
        granted (AcpSession.resumeSession connection agentSessionId workingDirectory)
      else none

/-- What adapter and agent answer, if they let the session be opened. -/
def World.opens (world : World S C) (start : Start) : Option (Handshake C) := do
  let adapter ← world.inner.adapters.get start.agent
  let workingDirectory := resolveWorkingDirectory world.env.home
    (normalizedWorkingDirectoryLabel start.workingDirectoryLabel)
  let connection ← (adapter.spawnSession world.ticks
    { workingDirectory := some workingDirectory, initialPrompt := start.initialPrompt }).toOption
  let (initialized, connection) ← granted (AcpSession.initializeAgent connection)
  let (metadata, connection) ← bindingAnswer start.kind initialized connection workingDirectory
  pure { adapter, initialized, metadata, connection }

end

/-- The session that is registered, under the id it gets. -/
def Handshake.session (handshake : Handshake C) (start : Start) (home : String) (now : Int)
    (gitBranch : Option String) (id : SessionId) : Session C :=
  { summary := {
      id
      title := start.title
      agent := start.agent.asStr
      model := start.model.or (currentConfigValue handshake.metadata.configOptions .model)
      effort := start.effort
      workingDirectoryLabel := normalizedWorkingDirectoryLabel start.workingDirectoryLabel
      gitBranch
      status := .idle
      createdAtMs := now
      lastActivityAtMs := now
      lastSequence := 0
      recovery := .live
      archived := false }
    descriptor := Manager.negotiated handshake.adapter.descriptor handshake.initialized
    initialized := handshake.initialized
    connection := handshake.connection
    agentSessionId := some handshake.metadata.agentSessionId
    origin := start.origin
    resolvedWorkingDirectory := resolveWorkingDirectory home
      (normalizedWorkingDirectoryLabel start.workingDirectoryLabel)
    modes := handshake.metadata.modes
    configOptions := handshake.metadata.configOptions
    journal := []
    pendingPermission := none
    running := true
    exitReported := false
    reasoningStartedAtMs := none
    reasoningEndedAtMs := none }

theorem Handshake.newborn_session (handshake : Handshake C) (start : Start) (home : String)
    (now : Int) (gitBranch : Option String) (id : SessionId) :
    (handshake.session start home now gitBranch id).Newborn id :=
  ⟨rfl, rfl, rfl, rfl, rfl, rfl, rfl, rfl⟩

/-- From `world` to `world'` the environment was read and an agent asked for a session. -/
structure World.Waits (world world' : World S C) : Prop where
  env : world'.env = world.env
  inner : world'.inner = world.inner
  ticks : world.ticks ≤ world'.ticks
  effects : ∃ more, world'.effects = world.effects ++ more ∧
    ∀ effect ∈ more, ∃ kind, effect = .requested kind

theorem World.Waits.refl (world : World S C) : world.Waits world :=
  ⟨rfl, rfl, Nat.le_refl _, [], (List.append_nil _).symm, by simp⟩

theorem World.Waits.trans {world world' world'' : World S C} (h : world.Waits world')
    (h' : world'.Waits world'') : world.Waits world'' := by
  obtain ⟨more, heffects, hmore⟩ := h.effects
  obtain ⟨more', heffects', hmore'⟩ := h'.effects
  refine ⟨h'.env.trans h.env, h'.inner.trans h.inner, h.ticks.trans h'.ticks, more ++ more', ?_, ?_⟩
  · rw [heffects', heffects, List.append_assoc]
  · intro effect hmem
    rcases List.mem_append.mp hmem with hmem | hmem
    · exact hmore effect hmem
    · exact hmore' effect hmem

theorem World.Waits.tick {world world' : World S C} (h : world.Waits world') :
    world.Waits { world' with ticks := world'.ticks + 1 } :=
  ⟨h.env, h.inner, Nat.le_succ_of_le h.ticks, h.effects⟩

theorem World.Waits.request {world world' : World S C} (h : world.Waits world')
    (kind : OpenKind) :
    world.Waits { world' with effects := world'.effects ++ [.requested kind] } := by
  obtain ⟨more, heffects, hmore⟩ := h.effects
  refine ⟨h.env, h.inner, h.ticks, more ++ [.requested kind], ?_, fun effect hmem => ?_⟩
  · dsimp only
    rw [heffects, List.append_assoc]
  · rcases List.mem_append.mp hmem with hmem | hmem
    · exact hmore effect hmem
    · exact ⟨kind, List.mem_singleton.mp hmem⟩

namespace Manager

theorem exec_spawnSession (adapter : AgentAdapter C) (launch : AgentLaunchConfig)
    (world : World S C) :
    (spawnSession adapter launch : Manager S C _).exec world =
      (.ok (adapter.spawnSession world.ticks launch), { world with ticks := world.ticks + 1 }) :=
  rfl

theorem yields_answered {α : Type} (answer : Except AcpError α × C) (world : World S C) :
    (answered answer : Manager S C (α × C)).Yields world (granted answer) world := by
  match answer with
  | (.ok a, connection) => rfl
  | (.error error, connection) => exact ⟨.agent error, rfl⟩

variable [AcpSession C]

theorem yields_bindSession (kind : OpenKind) (initialized : InitializeSummary) (connection : C)
    (workingDirectory : String) (world : World S C) :
    ∃ world', world.Waits world' ∧
      (bindSession kind initialized connection workingDirectory : Manager S C _).Yields world
        (bindingAnswer kind initialized connection workingDirectory) world' := by
  have hasked : ∀ (kind : OpenKind) (answer : Except AcpError SessionMetadata × C),
      (do note (.requested kind); answered answer : Manager S C _).Yields world (granted answer)
        { world with effects := world.effects ++ [.requested kind] } := fun kind answer =>
    yields_answered answer { world with effects := world.effects ++ [.requested kind] }
  have hrefused : ∀ (error : SessionError),
      (throw error : Manager S C (SessionMetadata × C)).Yields world none world :=
    fun error => ⟨error, rfl⟩
  cases kind with
  | new => exact ⟨_, (World.Waits.refl world).request .new, hasked _ _⟩
  | load agentSessionId =>
      by_cases hcan : initialized.agentCapabilities.loadSession = true
      · refine ⟨_, (World.Waits.refl world).request (.load agentSessionId), ?_⟩
        simp only [bindingAnswer, bindSession, if_pos hcan]
        exact hasked _ _
      · refine ⟨world, .refl world, ?_⟩
        simp only [bindingAnswer, bindSession, if_neg hcan]
        exact hrefused _
  | resume agentSessionId =>
      by_cases hcan : initialized.agentCapabilities.sessionResume = true
      · refine ⟨_, (World.Waits.refl world).request (.resume agentSessionId), ?_⟩
        simp only [bindingAnswer, bindSession, if_pos hcan]
        exact hasked _ _
      · refine ⟨world, .refl world, ?_⟩
        simp only [bindingAnswer, bindSession, if_neg hcan]
        exact hrefused _

variable [SessionStore S]

/-- What is left to do when the agent session is bound. -/
def opened (initialPrompt : Option String) (build : SessionId → Session C) :
    Manager S C SessionSummary := do
  let id ← enrollSession build
  match initialPrompt with
  | some prompt =>
      sendPrompt id prompt
      let _ ← pumpAll
  | none => pure ()
  let session ← lookupSession id
  pure ((session.map (·.summary)).getD (build id).summary)

/-- The shared path to a session. -/
def startSession (start : Start) : Manager S C SessionSummary :=
  openSession start.agent start.workingDirectoryLabel start.title start.model start.effort
    start.initialPrompt start.kind start.origin

/-- **Opening a session** stops where adapter or agent refuse, or registers it. -/
theorem startSession_cases (start : Start) (world : World S C) :
    match world.opens start with
    | none => ∃ world', world.Waits world' ∧
        (startSession start : Manager S C _).Yields world none world'
    | some handshake => ∃ between now gitBranch, world.Waits between ∧
        (startSession start : Manager S C _).exec world =
          (opened start.initialPrompt
            (handshake.session start world.env.home now gitBranch)).exec between := by
  have hget : ∀ {f : World S C → Manager S C SessionSummary},
      (get >>= f : Manager S C _).exec world = (f world).exec world := fun {f} => rfl
  unfold startSession openSession World.opens Yields
  simp only [hget]
  cases hadapter : world.inner.adapters.get start.agent with
  | none => exact ⟨world, .refl world, _, rfl⟩
  | some adapter =>
      simp only [Option.bind_eq_bind, Option.bind_some]
      rw [exec_bind, exec_spawnSession]
      dsimp only
      cases hspawn : adapter.spawnSession world.ticks _ with
      | error error => exact ⟨_, (World.Waits.refl world).tick, _, rfl⟩
      | ok connection =>
          dsimp only [Except.toOption, Option.bind_some]
          have hinit := yields_answered (S := S) (AcpSession.initializeAgent connection)
            { world with ticks := world.ticks + 1 }
          have htick : world.Waits { world with ticks := world.ticks + 1 } :=
            (World.Waits.refl world).tick
          cases hanswer : granted (AcpSession.initializeAgent connection) with
          | none =>
              rw [hanswer] at hinit
              exact ⟨_, htick, hinit.bind_none⟩
          | some outcome =>
              obtain ⟨initialized, connection⟩ := outcome
              rw [hanswer] at hinit
              rw [hinit.exec_bind]
              obtain ⟨bound, hwaits, hbind⟩ :=
                yields_bindSession start.kind initialized connection
                  (resolveWorkingDirectory world.env.home
                    (normalizedWorkingDirectoryLabel start.workingDirectoryLabel))
                  { world with ticks := world.ticks + 1 }
              have hbound := htick.trans hwaits
              dsimp only [Option.bind_some]
              cases hbinding : bindingAnswer start.kind initialized connection _ with
              | none =>
                  rw [hbinding] at hbind
                  exact ⟨_, hbound, hbind.bind_none⟩
              | some outcome =>
                  obtain ⟨metadata, connection⟩ := outcome
                  rw [hbinding] at hbind
                  rw [hbind.exec_bind]
                  exact ⟨{ bound with ticks := bound.ticks + 1 + 1 }, _, _, hbound.tick.tick, rfl⟩

/-! ## the initial prompt -/

omit [AcpSession C] in
/-- **Enrolling** a session, and what it returns. -/
theorem exec_enrollSession (build : SessionId → Session C) (world : World S C) :
    (enrollSession build : Manager S C _).exec world =
      (.ok (world.env.uuid world.ticks), (enrollSession build).final world) := by
  have hlookup : (world.registered build).inner.sessions.lookup (world.env.uuid world.ticks) =
      some (build (world.env.uuid world.ticks)) := AList.lookup_insert _
  rw [final_enrollSession, enrollSession, exec_bind, exec_registerSession]
  dsimp only
  rw [exec_bind, exec_append hlookup]
  rfl

omit [AcpSession C] in
/-- The enrolled session. -/
theorem lookup_enrollSession (build : SessionId → Session C) (world : World S C) :
    ((enrollSession build).final world).inner.sessions.lookup (world.env.uuid world.ticks) =
      some ((build (world.env.uuid world.ticks)).record world.inner.journalLimit
        ((world.registered build).nextEvent (build (world.env.uuid world.ticks))
          (.status ⟨.idle⟩))) := by
  rw [final_enrollSession]
  exact AList.lookup_insert _

/-- A prompt fails exactly where the agent of a running session refuses it. -/
theorem sendPrompt_fails_iff {id : SessionId} {session : Session C} {world : World S C}
    (hlookup : world.inner.sessions.lookup id = some session) (hrunning : session.running = true)
    (text : String) :
    (∃ error, (sendPrompt id text : Manager S C Unit).result world = .error error) ↔
      ∃ error, (AcpSession.prompt session.connection text).1 = .error error := by
  have hcall := exec_call hlookup (AcpSession.prompt · text)
  have hmem : id ∈ (world.setSession id
      { session with connection := (AcpSession.prompt session.connection text).2 }).inner.sessions :=
    (AList.mem_insert _).mpr (.inl rfl)
  rw [sendPrompt, result, exec_bind, exec_requireSession hlookup]
  dsimp only
  rw [if_pos hrunning, exec_bind, hcall]
  cases hprompt : (AcpSession.prompt session.connection text).1 with
  | error error => exact ⟨fun _ => ⟨error, rfl⟩, fun _ => ⟨.agent error, rfl⟩⟩
  | ok a =>
      refine ⟨fun ⟨error, hfails⟩ => ?_, nofun⟩
      refine absurd hfails (Completes.result_ne_error
        (I := fun world => id ∈ world.inner.sessions) ?_ hmem error)
      refine completes_bind (completes_modifySession _) fun _ => ?_
      exact completes_bind (completes_contentBlock _) fun _ => completes_append_append _ _

omit [SessionStore S] [AcpSession C] in
theorem completes_readSummary (id : SessionId) (summary : SessionSummary) :
    (do let session ← lookupSession id
        pure ((session.map (·.summary)).getD summary) : Manager S C _).Completes
      fun _ => True :=
  completes_bind (fun world _ => ⟨_, world, rfl, trivial⟩) fun _ => completes_pure _

/-- What follows the enrolling fails with the initial prompt only. -/
theorem opened_fails_iff {build : SessionId → Session C} {world : World S C}
    (initialPrompt : Option String)
    (hrunning : (build (world.env.uuid world.ticks)).running = true) :
    (∃ error, (opened initialPrompt build : Manager S C _).result world = .error error) ↔
      ∃ prompt ∈ initialPrompt, ∃ error,
        (AcpSession.prompt (build (world.env.uuid world.ticks)).connection prompt).1 =
          .error error := by
  have hlookup := lookup_enrollSession build world
  rw [opened, result, exec_bind, exec_enrollSession]
  dsimp only
  cases initialPrompt with
  | none => exact ⟨nofun, nofun⟩
  | some prompt =>
      simp only [Option.mem_some_iff, exists_eq_left']
      refine (fails_bind_iff fun _ => ?_).trans (sendPrompt_fails_iff hlookup hrunning prompt)
      exact completes_bind completes_pumpAll fun _ => completes_readSummary _ _

/-- What follows the enrolling opens no session. -/
theorem performs_afterEnroll (initialPrompt : Option String) (id : SessionId)
    (summary : SessionSummary) :
    (do match initialPrompt with
        | some prompt =>
            sendPrompt id prompt
            let _ ← pumpAll
        | none => pure ()
        let session ← lookupSession id
        pure ((session.map (·.summary)).getD summary) : Manager S C _).Performs Deed := by
  have hread : (do
      let session ← lookupSession id
      pure ((session.map (·.summary)).getD summary) : Manager S C _).Performs Deed :=
    performs_of_final_eq fun _ => rfl
  cases initialPrompt with
  | none => exact hread
  | some prompt =>
      exact performs_bind (performs_sendPrompt id prompt) fun _ =>
        performs_bind performs_pumpAll_deeds fun _ => hread

/-- A session stays when what follows its enrolling fails. -/
theorem mem_opened_of_fails {build : SessionId → Session C} {world : World S C}
    {initialPrompt : Option String}
    (hfails : ∃ error, (opened initialPrompt build : Manager S C _).result world = .error error) :
    world.env.uuid world.ticks ∈
      ((opened initialPrompt build : Manager S C _).final world).inner.sessions := by
  have hlookup := lookup_enrollSession build world
  have hmem : world.env.uuid world.ticks ∈ ((enrollSession build).final world).inner.sessions :=
    mem_of_lookup hlookup
  obtain ⟨error, hfails⟩ := hfails
  rw [opened, result, exec_bind, exec_enrollSession] at hfails
  rw [opened, final_bind, exec_enrollSession]
  cases initialPrompt with
  | none => contradiction
  | some prompt =>
      dsimp only at hfails ⊢
      obtain ⟨hprompt, hfinal⟩ := failed_bind_of_completes (fun _ =>
        completes_bind completes_pumpAll fun _ => completes_readSummary _ _) hfails
      rw [hfinal]
      exact ((agentsMove_sendPrompt hprompt).mem_iff _).mpr hmem

end Manager

/-! ## what a failure leaves -/

/-- The sessions, live and recovered, and the store are the same. -/
structure World.Untouched (world world' : World S C) : Prop where
  sessions : world'.inner.sessions = world.inner.sessions
  recovered : world'.inner.recovered = world.inner.recovered
  store : world'.inner.store = world.inner.store

/-- How the session starts that the operation opens. -/
def Operation.start? : Operation → Option Start
  | createSession request => some {
      agent := request.agent
      workingDirectoryLabel := request.workingDirectoryLabel
      title := defaultTitle request
      model := request.model
      effort := request.effort
      initialPrompt := request.initialPrompt
      kind := .new
      origin := .new }
  | importSession request => some {
      agent := request.agent
      workingDirectoryLabel := request.workingDirectoryLabel
      title := importTitle request
      model := none
      effort := none
      initialPrompt := none
      kind := match request.recovery with
        | .load => .load request.agentSessionId
        | .resume => .resume request.agentSessionId
      origin := match request.recovery with
        | .load => .load
        | .resume => .resume }
  | _ => none

/-- The agent grants the session and refuses its initial prompt. -/
def World.RefusesPrompt [AcpSession C] (world : World S C) (start : Start) : Prop :=
  ∃ handshake ∈ world.opens start, ∃ prompt ∈ start.initialPrompt, ∃ error,
    (AcpSession.prompt handshake.connection prompt).1 = .error error

section

variable [SessionStore S] [AcpSession C] {world : World S C} {start : Start}

/-- Opening a session is its start and something that does not fail. -/
theorem Operation.run_eq_startSession {operation : Operation}
    (hstart : operation.start? = some start) :
    ∃ f, (∀ a, (f a).Completes fun _ => True) ∧ (∀ a, (f a).Performs Deed) ∧
      (operation.run : Manager S C Unit) = Manager.startSession start >>= f := by
  cases operation with
  | createSession request =>
      obtain rfl := Option.some.inj hstart
      exact ⟨_, fun _ => completes_pure _, fun _ => performs_pure _, rfl⟩
  | importSession request =>
      obtain rfl := Option.some.inj hstart
      have hrest : ∀ summary : SessionSummary, (do
          let _ ← Manager.pumpAll
          let session ← Manager.lookupSession summary.id
          let _ := (session.map (·.summary)).getD summary
          pure PUnit.unit : Manager S C PUnit).Completes fun _ => True := fun summary =>
        completes_bind Manager.completes_pumpAll fun _ =>
          completes_bind (fun world _ => ⟨_, world, rfl, trivial⟩) fun _ => completes_pure _
      refine ⟨_, hrest, fun summary => ?_, ?_⟩
      · exact performs_bind Manager.performs_pumpAll_deeds fun _ => performs_of_final_eq fun _ => rfl
      cases hrecovery : request.recovery with
      | load => simp only [Operation.run, Manager.importSession, Manager.startSession, hrecovery,
          bind_assoc, pure_bind]
      | resume => simp only [Operation.run, Manager.importSession, Manager.startSession, hrecovery,
          bind_assoc, pure_bind]
  | _ => contradiction

/-- **A session does not start** where adapter or agent refuse it, or its prompt. -/
theorem startSession_fails_iff :
    (∃ error, (Manager.startSession start : Manager S C _).result world = .error error) ↔
      world.opens start = none ∨ world.RefusesPrompt start := by
  have hcases := Manager.startSession_cases (S := S) start world
  rw [World.RefusesPrompt]
  cases hopens : world.opens start with
  | none =>
      rw [hopens] at hcases
      obtain ⟨world', -, hyields⟩ := hcases
      simp [hyields.fails_iff]
  | some handshake =>
      rw [hopens] at hcases
      obtain ⟨between, now, gitBranch, -, hexec⟩ := hcases
      rw [Program.result, hexec]
      refine (Manager.opened_fails_iff start.initialPrompt rfl).trans ?_
      simp only [reduceCtorEq, false_or, Option.mem_some_iff, exists_eq_left']
      rfl

/-- A session that does not start leaves nothing, unless the prompt is refused. -/
theorem startSession_untouched (hopens : world.opens start = none) :
    world.Untouched ((Manager.startSession start : Manager S C _).final world) := by
  have hcases := Manager.startSession_cases (S := S) start world
  rw [hopens] at hcases
  obtain ⟨world', hwaits, hyields⟩ := hcases
  rw [hyields.final_eq]
  exact ⟨by rw [hwaits.inner], by rw [hwaits.inner], by rw [hwaits.inner]⟩

/-- A session whose prompt is refused stays. -/
theorem startSession_ghost (hrefuses : world.RefusesPrompt start) :
    ∃ n ≥ world.ticks, world.env.uuid n ∈
      ((Manager.startSession start : Manager S C _).final world).inner.sessions := by
  have hcases := Manager.startSession_cases (S := S) start world
  obtain ⟨handshake, hopens, prompt, hprompt, hrefused⟩ := hrefuses
  rw [Option.mem_def.mp hopens] at hcases
  obtain ⟨between, now, gitBranch, hwaits, hexec⟩ := hcases
  refine ⟨between.ticks, hwaits.ticks, ?_⟩
  rw [Program.final, hexec, ← hwaits.env]
  refine Manager.mem_opened_of_fails ?_
  exact (Manager.opened_fails_iff start.initialPrompt rfl).mpr ⟨prompt, hprompt, hrefused⟩

/-- **A failed creation leaves nothing behind** exactly where no agent that granted
the session refuses its initial prompt. -/
theorem failed_opening_leaves_nothing {operation : Operation}
    (hstart : operation.start? = some start)
    (hfresh : ∀ n ≥ world.ticks, world.env.uuid n ∉ world.inner.sessions) :
    ((∃ error, (operation.run : Manager S C Unit).result world = .error error) →
        world.Untouched ((operation.run : Manager S C Unit).final world)) ↔
      ¬ world.RefusesPrompt start := by
  obtain ⟨f, hf, -, hrun⟩ := Operation.run_eq_startSession (S := S) (C := C) hstart
  have hfinal : (∃ error, (operation.run : Manager S C Unit).result world = .error error) →
      (operation.run : Manager S C Unit).final world =
        (Manager.startSession start : Manager S C _).final world := by
    rintro ⟨error, hfails⟩
    rw [hrun] at hfails ⊢
    exact (failed_bind_of_completes hf hfails).2
  have hfails : (∃ error, (operation.run : Manager S C Unit).result world = .error error) ↔
      world.opens start = none ∨ world.RefusesPrompt start := by
    rw [hrun]
    exact (fails_bind_iff hf).trans startSession_fails_iff
  constructor
  · intro huntouched hrefuses
    have hfail := hfails.mpr (.inr hrefuses)
    have hsame := huntouched hfail
    rw [hfinal hfail] at hsame
    obtain ⟨n, hn, hmem⟩ := startSession_ghost hrefuses
    rw [hsame.sessions] at hmem
    exact hfresh n hn hmem
  · intro hgrants hfail
    rw [hfinal hfail]
    exact startSession_untouched ((hfails.mp hfail).resolve_right hgrants)

end

/-! ## a mute agent -/

/-- An agent that binds sessions and refuses every prompt. -/
inductive MuteAgent where
  | mute

instance : AcpSession MuteAgent where
  initializeAgent agent :=
    (.ok {
      protocolVersion := 1
      agentName := none
      agentTitle := none
      agentVersion := none
      agentCapabilities := { loadSession := false, sessionList := false, sessionResume := false } },
      agent)
  newSession agent _ := (.ok (ScriptedAgent.metadata "native"), agent)
  loadSession agent agentSessionId _ := (.ok (ScriptedAgent.metadata agentSessionId), agent)
  resumeSession agent agentSessionId _ := (.ok (ScriptedAgent.metadata agentSessionId), agent)
  prompt agent _ := (.error { message := "busy" }, agent)
  cancel agent := (.ok (), agent)
  respondPermission agent _ := (.ok (), agent)
  setMode agent _ := (.ok (), agent)
  setConfigOption agent _ _ := (.ok [], agent)
  drain agent := ([], agent)
  isRunning agent := (true, agent)

/-- A manager over an empty database whose agents are mute. -/
def muteManager : World SqliteStore MuteAgent :=
  SessionManager.new sampleEnv 0
    [{ kind := .fake
       descriptor := { kind := .fake, displayName := "Fake", version := none }
       spawnSession := fun _ _ => .ok .mute }]
    (SqliteStore.empty 0) 1

def promptedRequest : CreateSessionRequest := { sampleRequest with initialPrompt := some "hello" }

theorem failed_opening_leaves_nothing_muted :
    ((∃ error, ((Operation.createSession promptedRequest).run :
        Manager SqliteStore MuteAgent Unit).result muteManager = .error error) →
      muteManager.Untouched (((Operation.createSession promptedRequest).run :
        Manager SqliteStore MuteAgent Unit).final muteManager)) ↔
      ¬ muteManager.RefusesPrompt
        { agent := .fake, workingDirectoryLabel := "~/src", title := "hello", model := none,
          effort := none, initialPrompt := some "hello", kind := .new, origin := .new } :=
  failed_opening_leaves_nothing (by decide +kernel) fun _ _ => AList.notMem_empty _

/-- The creation fails, and its session is listed and persisted. -/
theorem refused_prompt_leaves_ghost :
    ((Operation.createSession promptedRequest).run :
        Manager SqliteStore MuteAgent Unit).result muteManager = .error (.agent { message := "busy" }) ∧
      muteManager.inner.sessions.keys = [] ∧
      (((Operation.createSession promptedRequest).run :
        Manager SqliteStore MuteAgent Unit).final muteManager).inner.sessions.keys = ["uuu"] ∧
      (((Operation.createSession promptedRequest).run :
        Manager SqliteStore MuteAgent Unit).final muteManager).inner.store.sessions.keys = ["uuu"] ∧
      ¬ muteManager.Untouched (((Operation.createSession promptedRequest).run :
        Manager SqliteStore MuteAgent Unit).final muteManager) := by
  have hkeys : (((Operation.createSession promptedRequest).run :
      Manager SqliteStore MuteAgent Unit).final muteManager).inner.sessions.keys = ["uuu"] := by
    decide +kernel
  refine ⟨by decide +kernel, by decide, hkeys, by decide +kernel, fun huntouched => ?_⟩
  rw [huntouched.sessions] at hkeys
  contradiction

end Slight
