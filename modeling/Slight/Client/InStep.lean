import Slight.Client.Outline
import Slight.Session.Growth

/-!
# Slight.Client.InStep

A client that takes the summary of a session from an acknowledgement and handles
the events that come after it, beside the manager.  `client_in_step`: while the
moves of the manager are `InStep`, both say the same of the session's status, title
and model, and the model is the one the session's options say.
-/

namespace Slight

open Support Program Client

variable {S C : Type}

/-! ## the client -/

namespace Client.SessionViewModel

theorem session_record (view : SessionViewModel) (event : GatewayEvent) :
    (view.record event).session = view.session := by
  unfold record
  split <;> rfl

/-- What an event makes of the summary that is shown. -/
theorem session_applyEvent {view : SessionViewModel} {shown : SessionSummary}
    (hview : view.session = some shown) (id : SessionId) (event : SequencedEvent) :
    ∃ shown', (view.applyEvent (.ofFrame id event)).session = some shown' ∧
      shown'.outline = shown.outline.after event.event := by
  obtain ⟨sequence, timestampMs, event⟩ := event
  have hread : ∀ {α : Type} [Decodable α] {a : Option α},
      decodeJSON event.payload.trip = a → payloadAs α (some (.decode event.payload)) = a := by
    intro α _ a h
    rw [payloadAs_decode event.payload_ne_null, h]
  cases event with
  | status payload =>
      have hpayload := hread (decode_trip payload)
      simp only [applyEvent, GatewayEvent.ofFrame, SessionEvent.name, hpayload, hview]
      split <;> exact ⟨_, rfl, rfl⟩
  | configOptions payload =>
      have hpayload := hread payload.decode_trip_reread
      simp only [applyEvent, GatewayEvent.ofFrame, SessionEvent.name, hpayload, hview]
      exact ⟨_, rfl, rfl⟩
  | snapshot payload =>
      have hpayload := hread payload.decode_trip_received
      simp only [applyEvent, GatewayEvent.ofFrame, SessionEvent.name, hpayload]
      rw [Outline.after_snapshot]
      cases hnumber : received payload.summary.lastSequence with
      | none =>
          have hnone : payload.received = none := by
            rw [SnapshotPayload.received, Slight.SessionSummary.received, hnumber]
            rfl
          rw [hnone]
          exact ⟨shown, hview, rfl⟩
      | some number =>
          obtain ⟨summary, hsummary, houtline⟩ : ∃ summary, payload.received =
              some { summary, pendingPermission := payload.pendingPermission } ∧
                summary.outline = payload.summary.outline := by
            rw [SnapshotPayload.received, Slight.SessionSummary.received, hnumber]
            exact ⟨_, rfl, rfl⟩
          rw [hsummary]
          refine ⟨summary, ?_, houtline⟩
          dsimp only
          split
          · split <;> rfl
          · rfl
  | exit payload =>
      simp only [applyEvent, GatewayEvent.ofFrame, SessionEvent.name, hview]
      exact ⟨_, rfl, rfl⟩
  | diagnostics payload
  | turnEnded payload =>
      simp only [applyEvent, GatewayEvent.ofFrame, SessionEvent.name]
      split
      · split <;> exact ⟨shown, hview, rfl⟩
      · exact ⟨shown, hview, rfl⟩
  | plan payload
  | commands payload
  | sessionInfo payload
  | usage payload => exact ⟨shown, hview, rfl⟩
  | _ =>
      simp only [applyEvent, GatewayEvent.ofFrame, SessionEvent.name]
      split <;> exact ⟨shown, hview, rfl⟩

/-- What events make of the summary that is shown. -/
theorem session_foldl {view : SessionViewModel} {shown : SessionSummary}
    (hview : view.session = some shown) (id : SessionId) (events : List SequencedEvent) :
    ∃ shown', ((events.map (.ofFrame id)).foldl handleEvent view).session = some shown' ∧
      shown'.outline = (events.map (·.event)).foldl Outline.after shown.outline := by
  induction events generalizing view shown with
  | nil => exact ⟨shown, hview, rfl⟩
  | cons event events ih =>
      have hrecord : (view.record (.ofFrame id event)).session = some shown :=
        (view.session_record _).trans hview
      obtain ⟨between, hbetween, houtline⟩ := session_applyEvent hrecord id event
      obtain ⟨shown', hshown', houtline'⟩ := ih hbetween
      refine ⟨shown', hshown', ?_⟩
      rw [houtline', houtline]
      rfl

end Client.SessionViewModel

/-! ## the manager -/

/-- The summary of a session that acknowledgements carry. -/
def World.summary? (world : World S C) (id : SessionId) : Option SessionSummary :=
  ((world.inner.sessions.lookup id).map (·.summary)).or
    ((world.inner.recovered.lookup id).map (·.summary))

theorem World.summary?_of_lookup {world : World S C} {id : SessionId} {session : Session C}
    (hlookup : world.inner.sessions.lookup id = some session) :
    world.summary? id = some session.summary := by
  rw [summary?, hlookup]
  rfl

theorem World.summary?_attach {world : World S C} {id : SessionId} {afterSequence : Option Nat}
    {ack : AttachResult}
    (h : (Manager.attach id afterSequence : Manager S C _).result world = .ok ack) :
    world.summary? id = some ack.summary := by
  rw [Manager.attach, result, exec_bind, exec_get] at h
  dsimp only at h
  rw [summary?]
  cases hlookup : world.inner.sessions.lookup id with
  | some session =>
      rw [hlookup] at h
      rw [← Except.ok.inj h]
      rfl
  | none =>
      rw [hlookup] at h
      cases hrecovered : world.inner.recovered.lookup id with
      | some session =>
          rw [hrecovered] at h
          rw [← Except.ok.inj h]
          rfl
      | none =>
          rw [hrecovered] at h
          contradiction

section

variable [SessionStore S] [AcpSession C]

/-- A run whose moves keep clients in step, from any state. -/
theorem steady_of_calls {restored : SessionId → Prop} {journalLimit : Nat} {start world : World S C}
    (hstart : Journaled restored journalLimit start)
    (hworld : (calls start).ReachUnder InStep world) :
    Journaled restored journalLimit world ∧ start.Steady world ∧
      ∀ id, World.Grows id start world := by
  refine System.invariant_of_step (I := fun world => Journaled restored journalLimit world ∧
    start.Steady world ∧ ∀ id, World.Grows id start world) (fun world hinit => ?_)
    (fun world move world' h hok hmove => ?_) hworld
  · rw [show world = start from hinit]
    exact ⟨hstart, .refl start, fun id => .refl id start⟩
  · obtain ⟨hjournaled, hsteady, hgrows⟩ := h
    have hnew := hjournaled.fresh world.ticks (Nat.le_refl _)
    refine ⟨hjournaled.move hmove, hsteady.trans (world.steady_move hok hnew hmove), fun id => ?_⟩
    refine (hgrows id).trans ?_
    cases move with
    | agents => exact .agentsMove hmove
    | call call =>
        rw [show world' = (call.run : Manager S C Unit).final world from hmove]
        exact (World.Grows.of_performs call.performs_run hjournaled).2

omit [SessionStore S] [AcpSession C] in
/-- The events after the last one are those that were appended since. -/
theorem filter_appendedTo {restored : SessionId → Prop} {journalLimit : Nat}
    {before world : World S C} {id : SessionId} {session : Session C} {more : List Effect}
    (hbefore : Journaled restored journalLimit before) (hgrows : World.Grows id before world)
    (hlookup : before.inner.sessions.lookup id = some session)
    (hmore : world.effects = before.effects ++ more) :
    (appendedTo id world.effects).filter
      (fun event => session.summary.lastSequence < event.sequence) = appendedTo id more := by
  obtain ⟨more', heffects, hsession⟩ := hgrows
  obtain rfl : more = more' := List.append_cancel_left (hmore.symm.trans heffects)
  obtain ⟨hsequences, -⟩ := hsession session hlookup
  have hold : (appendedTo id before.effects).filter
      (fun event => session.summary.lastSequence < event.sequence) = [] := by
    refine List.filter_eq_nil_iff.mpr fun event hmem => ?_
    have hle := hbefore.sequence_le hlookup event hmem
    simp only [decide_eq_true_eq]
    omega
  have hnew : (appendedTo id more).filter
      (fun event => session.summary.lastSequence < event.sequence) = appendedTo id more := by
    refine List.filter_eq_self.mpr fun event hmem => ?_
    exact decide_eq_true (lt_sequence_of_grown hsequences event hmem)
  rw [hmore, appendedTo_append, List.filter_append, hold, hnew, List.nil_append]

omit [SessionStore S] [AcpSession C] in
/-- **The summary follows the events** that come after it. -/
theorem outline_of_steady {restored : SessionId → Prop} {journalLimit : Nat}
    {before world : World S C} {id : SessionId} (hbefore : Journaled restored journalLimit before)
    (hworld : Journaled restored journalLimit world) (hsteady : before.Steady world)
    (hgrows : World.Grows id before world)
    (hnew : id ∈ before.inner.recovered → ∀ n ≥ before.ticks, before.env.uuid n ≠ id)
    {summary : Slight.SessionSummary} (hsummary : before.summary? id = some summary) :
    ∃ summary', world.summary? id = some summary' ∧
      summary'.outline = (((appendedTo id world.effects).filter fun event =>
        summary.lastSequence < event.sequence).map (·.event)).foldl Outline.after
          summary.outline := by
  cases hlookup : before.inner.sessions.lookup id with
  | some session =>
      have hsame : session.summary = summary :=
        Option.some.inj ((World.summary?_of_lookup hlookup).symm.trans hsummary)
      obtain ⟨more, hmore, hlive⟩ := hsteady.live
      obtain ⟨session', hlookup', houtline, -⟩ := hlive id session hlookup
      rw [← hsame, filter_appendedTo hbefore hgrows hlookup hmore]
      exact ⟨session'.summary, World.summary?_of_lookup hlookup', houtline⟩
  | none =>
      rw [World.summary?, hlookup, Option.map_none, Option.none_or] at hsummary
      obtain ⟨session, hrecovered, rfl⟩ := Option.map_eq_some_iff.mp hsummary
      have hid : id ∈ before.inner.recovered := mem_of_lookup hrecovered
      have hunborn : id ∉ world.inner.sessions :=
        hsteady.not_opened (hnew hid) (AList.lookup_eq_none.mp hlookup)
      have hlost := hsteady.lost id
      rw [hrecovered, Option.map_some] at hlost
      obtain ⟨session', hrecovered', houtline⟩ := Option.map_eq_some_iff.mp hlost
      rw [hworld.unborn id hunborn, World.summary?, AList.lookup_eq_none.mpr hunborn, hrecovered']
      exact ⟨session'.summary, rfl, houtline⟩

variable [LawfulSessionStore S] {env : Env} {ticks : Nat} {adapters : AdapterRegistry C}
  {store : S} {journalLimit : Nat}

/-- A session that is resumed at the start has the model its row recorded. -/
def ResumesModels (env : Env) (ticks : Nat) (adapters : AdapterRegistry C) (store : S)
    (journalLimit : Nat) : Prop :=
  ∀ row ∈ byCreation (LawfulSessionStore.sessions store), ∀ record : PersistedSession,
    row.record = some record →
      ∀ session ∈ (SessionManager.new env ticks adapters store
        journalLimit).inner.sessions.lookup record.summary.id,
        ∀ value ∈ currentConfigValue session.configOptions .model,
          record.summary.model = some value

theorem ResumesModels.tellsModel (h : ResumesModels env ticks adapters store journalLimit)
    {id : SessionId} {session : Session C}
    (hlookup : (SessionManager.new env ticks adapters store
      journalLimit).inner.sessions.lookup id = some session) : session.TellsModel := by
  have hrows := recoversRows_new (C := C) env ticks adapters store journalLimit
  rcases hrows.live id session hlookup with hnone | ⟨row, hrow, hrehydrates, hid⟩
  · exact absurd hnone (SessionManager.lookup_sessions_starting_ne id session)
  · obtain ⟨record, hread, hsummary⟩ := hrehydrates.record
    have hrecord : record.summary.id = id := by
      rw [← hid, hsummary]
    intro value hvalue
    rw [hsummary]
    exact h row hrow record hread session (by rw [hrecord]; exact hlookup) value hvalue

/-- **A client stays in step** with the manager: while no move brings another title or
another model than the summary has, a client that took the summary from an
acknowledgement and handled every later event shows the status, the title and the
model the manager has, and the model is the value of the session's model option. -/
theorem client_in_step
    (hfresh : ∀ n ≥ (SessionManager.new env ticks adapters store journalLimit : World S C).ticks,
      env.uuid n ∉ (SessionManager.new env ticks adapters store journalLimit :
          World S C).inner.sessions ∧
        env.uuid n ∉ (SessionManager.new env ticks adapters store journalLimit :
          World S C).inner.recovered)
    (hresumes : ResumesModels (C := C) env ticks adapters store journalLimit)
    {before : World S C}
    (hbefore : (calls (SessionManager.new env ticks adapters store journalLimit)).ReachUnder
      InStep before)
    {id : SessionId} {afterSequence : Option Nat} {ack : AttachResult}
    (hack : (Manager.attach id afterSequence : Manager S C _).result before = .ok ack)
    {view : SessionViewModel} {shown : Client.SessionSummary} (hview : view.session = some shown)
    (hstatus : shown.status = ack.summary.status) (htitle : shown.title = ack.summary.title)
    (hmodel : shown.model = ack.summary.model)
    {world : World S C} (hworld : (calls before).ReachUnder InStep world) :
    (∃ summary shown', world.summary? id = some summary ∧
      ((((appendedTo id world.effects).filter fun event =>
          ack.summary.lastSequence < event.sequence).map (.ofFrame id)).foldl
        SessionViewModel.handleEvent view).session = some shown' ∧
      shown'.status = summary.status ∧ shown'.title = summary.title ∧
      shown'.model = summary.model) ∧
    ∀ other session, world.inner.sessions.lookup other = some session →
      ∀ value ∈ currentConfigValue session.configOptions .model,
        session.summary.model = some value := by
  have hstart : Journaled _ journalLimit
      (SessionManager.new env ticks adapters store journalLimit : World S C) :=
    journaled_new fun n hn => (hfresh n hn).1
  obtain ⟨hjournaled, hsteady, -⟩ := steady_of_calls hstart hbefore
  obtain ⟨hjournaled', hsteady', hgrows⟩ := steady_of_calls hjournaled hworld
  refine ⟨?_, fun other session hlookup =>
    (hsteady.trans hsteady').tellsModel (fun _ _ => hresumes.tellsModel) hlookup⟩
  have hnew : id ∈ before.inner.recovered → ∀ n ≥ before.ticks, before.env.uuid n ≠ id := by
    intro hid n hn huuid
    have henv : before.env = env := hsteady.env.trans
      (recoversRows_new (C := C) env ticks adapters store journalLimit).recovers.env
    rw [henv] at huuid
    refine (hfresh n (hsteady.ticks.trans hn)).2 ?_
    rw [huuid]
    exact hsteady.mem_recovered hid
  obtain ⟨summary, hsummary, houtline⟩ := outline_of_steady hjournaled hjournaled' hsteady'
    (hgrows id) hnew (World.summary?_attach hack)
  obtain ⟨shown', hshown', houtline'⟩ := SessionViewModel.session_foldl hview id
    ((appendedTo id world.effects).filter fun event => ack.summary.lastSequence < event.sequence)
  have hacknowledged : shown.outline = ack.summary.outline := by
    rw [Client.SessionSummary.outline, hstatus, htitle, hmodel]
    rfl
  have hsame : shown'.outline = summary.outline := by
    rw [houtline', houtline, hacknowledged]
  exact ⟨summary, shown', hsummary, hshown', congrArg Outline.status hsame,
    congrArg Outline.title hsame, congrArg Outline.model hsame⟩

end

/-! ## sample runs -/

theorem Manager.attach_of_lookup {world : World S C} {id : SessionId} {session : Session C}
    (hlookup : world.inner.sessions.lookup id = some session) (afterSequence : Option Nat) :
    (Manager.attach id afterSequence : Manager S C _).result world =
      .ok (attachJournal session.summary session.journal afterSequence) := by
  rw [Manager.attach, result, exec_bind, exec_get]
  dsimp only
  rw [hlookup]
  rfl

def sampleModelOption (value : String) : AcpConfigOption where
  id := "model"
  name := "Model"
  description := none
  category := some .model
  kind := .select value []

/-- An agent that has chosen a model. -/
def sampleHandshake : Handshake ScriptedAgent where
  adapter := ScriptedAgent.adapter true
  initialized := {
    protocolVersion := 1
    agentName := none
    agentTitle := none
    agentVersion := none
    agentCapabilities := { loadSession := false, sessionList := false, sessionResume := true } }
  metadata := { ScriptedAgent.metadata "native" with configOptions := [sampleModelOption "opus"] }
  connection := {
    capabilities := { loadSession := false, sessionList := false, sessionResume := true }
    events := [] }

def sampleOpening : Start where
  agent := .fake
  workingDirectoryLabel := "~"
  title := "New session"
  model := some "opus"
  effort := none
  initialPrompt := none
  kind := .new
  origin := .new

def sampleOpen : Call ScriptedAgent :=
  .enroll (sampleHandshake.session sampleOpening "/home" 0 none)
    (sampleHandshake.newborn_session sampleOpening "/home" 0 none)

def sampleOpened : World SqliteStore ScriptedAgent := sampleOpen.run.final sampleManager

/-- The session is renamed, its agent reports the same model again and exits. -/
def sampleClosed : World SqliteStore ScriptedAgent :=
  (Call.apply "" sampleExit).run.final
    ((Call.apply "" (.configOptions [sampleModelOption "opus"])).run.final
      ((Call.renameSession "" "Build").run.final sampleOpened))

/-- A client that shows a session. -/
def sampleView (outline : Outline) : SessionViewModel where
  sessionId := ""
  session := some {
    id := ""
    title := outline.title
    agent := "fake"
    model := outline.model
    effort := none
    workingDirectoryLabel := "~"
    gitBranch := none
    status := outline.status
    createdAt := none
    lastActivityAt := none
    lastSequence := 1
    recovery := .live
    archived := false }

theorem client_in_step_closed :
    ∃ ack, (Manager.attach "" none : Manager SqliteStore ScriptedAgent _).result sampleOpened =
        .ok ack ∧
      (∃ summary shown', sampleClosed.summary? "" = some summary ∧
        ((((appendedTo "" sampleClosed.effects).filter fun event =>
            ack.summary.lastSequence < event.sequence).map (.ofFrame "")).foldl
          SessionViewModel.handleEvent (sampleView ⟨.idle, "New session", some "opus"⟩)).session =
            some shown' ∧
        shown'.status = summary.status ∧ shown'.title = summary.title ∧
        shown'.model = summary.model) ∧
      ∀ other session, sampleClosed.inner.sessions.lookup other = some session →
        ∀ value ∈ currentConfigValue session.configOptions .model,
          session.summary.model = some value := by
  have houtline : (sampleOpened.inner.sessions.lookup "").map (·.summary.outline) =
      some ⟨.idle, "New session", some "opus"⟩ := by decide +kernel
  obtain ⟨session, hlookup, hsession⟩ := Option.map_eq_some_iff.mp houtline
  have hbefore : (calls sampleManager).ReachUnder InStep sampleOpened :=
    .step (a := .call sampleOpen) (.init rfl)
      ⟨sampleHandshake, sampleOpening, "/home", 0, none, rfl, by decide +kernel⟩ rfl
  have hworld : (calls sampleOpened).ReachUnder InStep sampleClosed := by
    have hrenamed : (calls sampleOpened).ReachUnder InStep
        ((Call.renameSession "" "Build").run.final sampleOpened) :=
      .step (a := .call (.renameSession "" "Build")) (.init rfl) (by
        show ∀ session ∈ sampleOpened.inner.sessions.lookup "", trim "Build" ≠ "" →
          trim "Build" ≠ session.summary.title →
            (received session.summary.lastSequence).isSome = true
        decide +kernel) rfl
    have hconfigured : (calls sampleOpened).ReachUnder InStep
        ((Call.apply "" (.configOptions [sampleModelOption "opus"])).run.final
          ((Call.renameSession "" "Build").run.final sampleOpened)) :=
      .step (a := .call (.apply "" (.configOptions [sampleModelOption "opus"]))) hrenamed (by
        show ∀ session ∈ ((Call.renameSession "" "Build").run.final
          sampleOpened).inner.sessions.lookup "",
            AgentEvent.InStep session.summary (.configOptions [sampleModelOption "opus"])
        decide +kernel) rfl
    exact .step (a := .call (.apply "" sampleExit)) hconfigured (fun _ _ => trivial) rfl
  have hresumes : ResumesModels (C := ScriptedAgent) sampleEnv 0 [ScriptedAgent.adapter true]
      (SqliteStore.empty 0) 1 := by
    intro row hrow
    contradiction
  exact ⟨_, Manager.attach_of_lookup hlookup none,
    client_in_step (fun _ _ => ⟨AList.notMem_empty _, AList.notMem_empty _⟩) hresumes hbefore
      (Manager.attach_of_lookup hlookup none) rfl (congrArg Outline.status hsession).symm
      (congrArg Outline.title hsession).symm (congrArg Outline.model hsession).symm hworld⟩

def sampleJoined : World SqliteStore ScriptedAgent :=
  sampleManager.after (.createSession sampleRequest)

/-- The agent reports a model and another title. -/
def sampleReports : List AgentEvent :=
  [.configOptions [sampleModelOption "opus"],
    .sessionInfo { title := some (some "Renamed"), updatedAt := none }]

def sampleReported : World SqliteStore ScriptedAgent :=
  (sampleJoined.heard "uuu" sampleReports).after .pump

/-- The client takes the model from the options and the manager does not; the manager
takes the title from the agent and the client does not. -/
theorem client_out_of_step :
    (calls sampleManager).Reachable sampleJoined ∧
      (calls sampleJoined).Reachable sampleReported ∧
      ∃ ack shown summary,
        (Manager.attach "uuu" none : Manager SqliteStore ScriptedAgent _).result sampleJoined =
          .ok ack ∧
        ack.summary.outline = ⟨.idle, "fake session", none⟩ ∧
        ((((appendedTo "uuu" sampleReported.effects).filter fun event =>
            ack.summary.lastSequence < event.sequence).map (.ofFrame "uuu")).foldl
          SessionViewModel.handleEvent (sampleView ack.summary.outline)).session = some shown ∧
        shown.outline = ⟨.idle, "fake session", some "opus"⟩ ∧
        sampleReported.summary? "uuu" = some summary ∧
        summary.outline = ⟨.idle, "Renamed", none⟩ ∧
        (sampleReported.inner.sessions.lookup "uuu").bind
          (fun session => currentConfigValue session.configOptions .model) = some "opus" := by
  have hcreated : (process sampleManager).Reachable sampleJoined :=
    .step (a := .operation (.createSession sampleRequest)) (.init rfl) trivial rfl
  have hheard : (process sampleJoined).Reachable (sampleJoined.heard "uuu" sampleReports) :=
    .step (a := .agents) (.init rfl) trivial (World.agentsMove_heard _ _ _)
  have hreported : (process sampleJoined).Reachable sampleReported :=
    .step (a := .operation .pump) hheard trivial rfl
  have hbefore : (sampleJoined.inner.sessions.lookup "uuu").map
      (fun session => (session.summary.outline, session.summary.lastSequence)) =
        some (⟨.idle, "fake session", none⟩, 1) := by decide +kernel
  obtain ⟨session, hlookup, hsession⟩ := Option.map_eq_some_iff.mp hbefore
  obtain ⟨houtline, hsequence⟩ := Prod.mk.inj hsession
  have hafter : (sampleReported.summary? "uuu").map (·.outline) =
      some ⟨.idle, "Renamed", none⟩ := by decide +kernel
  obtain ⟨summary, hsummary, hsame⟩ := Option.map_eq_some_iff.mp hafter
  have hview : ∃ shown, (sampleView session.summary.outline).session = some shown ∧
      shown.outline = session.summary.outline := ⟨_, rfl, rfl⟩
  obtain ⟨acknowledged, hview, hacknowledged⟩ := hview
  obtain ⟨shown, hshown, hfolded⟩ := SessionViewModel.session_foldl hview "uuu"
    ((appendedTo "uuu" sampleReported.effects).filter
      fun event => session.summary.lastSequence < event.sequence)
  have hevents : ((((appendedTo "uuu" sampleReported.effects).filter
      fun event => 1 < event.sequence).map (·.event)).foldl Outline.after
        ⟨.idle, "fake session", none⟩) = ⟨.idle, "fake session", some "opus"⟩ := by
    decide +kernel
  refine ⟨calls_of_process hcreated, calls_of_process hreported,
    attachJournal session.summary session.journal none, shown, summary,
    Manager.attach_of_lookup hlookup none, houtline, hshown, ?_, hsummary, hsame, by decide +kernel⟩
  rw [hfolded, hsequence, hacknowledged, houtline]
  exact hevents

end Slight
