import Slight.Client.SessionView
import Slight.Client.Survival
import Slight.Session.Lifecycle
import Slight.Session.Opening

/-!
# Slight.Client.Outline

Status, title and model of a session: what a client makes of them when an event
arrives (`Outline.after`), and what the manager makes of them when it appends that
event.  The two agree over a call (`World.Steady`) unless the agent reports another
title or another model than the summary has, which `InStep` rules out.
-/

namespace Slight

open Support Program

variable {S C : Type}

/-! ## outlines -/

/-- Status, title and model of a session. -/
structure Outline where
  status : SessionStatus
  title : String
  model : Option String
  deriving DecidableEq

def SessionSummary.outline (summary : SessionSummary) : Outline where
  status := summary.status
  title := summary.title
  model := summary.model

def Client.SessionSummary.outline (summary : Client.SessionSummary) : Outline where
  status := summary.status
  title := summary.title
  model := summary.model

/-- The model a client reads off configuration options: the value of the first
option of the category, if that is a select. -/
def shownModel (options : List AcpConfigOption) : Option String :=
  (options.find? (·.category = some .model)).bind fun option =>
    match option.kind with
    | .select currentValueId _ => some currentValueId
    | .boolean _ => none

/-- What a client makes of an outline when an event arrives. -/
def Outline.after (outline : Outline) : SessionEvent → Outline
  | .status payload => { outline with status := payload.status }
  | .exit _ => { outline with status := .exited }
  | .configOptions payload =>
      { outline with model := (shownModel (payload.options.map .reread)).or outline.model }
  | .snapshot payload =>
      -- a summary with a number the client cannot hold does not decode
      if (received payload.summary.lastSequence).isSome then payload.summary.outline else outline
  | _ => outline

theorem Outline.after_snapshot (outline : Outline) (payload : SnapshotPayload) :
    outline.after (.snapshot payload) =
      if (received payload.summary.lastSequence).isSome then payload.summary.outline
      else outline := rfl

/-- The events a client makes the same of as the manager: a status event sets the
status, the others nothing. -/
def SessionEvent.isPlain : SessionEvent → Bool
  | .exit _ | .configOptions _ | .snapshot _ => false
  | _ => true

theorem Outline.after_of_isPlain {event : SessionEvent} (h : event.isPlain = true)
    (outline : Outline) :
    outline.after event = { outline with status := event.status?.getD outline.status } := by
  cases event <;> first | contradiction | rfl

theorem Session.outline_record (session : Session C) (limit : Nat) (event : SequencedEvent) :
    (session.record limit event).summary.outline =
      { session.summary.outline with
        status := event.event.status?.getD session.summary.status } := rfl

/-- If the session has a select option of the category, the summary has its value as
the model. -/
def Session.TellsModel (session : Session C) : Prop :=
  ∀ value ∈ currentConfigValue session.configOptions .model, session.summary.model = some value

/-- From `session` to `session'` neither the outline nor the options change. -/
structure Session.Stays (session session' : Session C) : Prop where
  outline : session'.summary.outline = session.summary.outline
  configOptions : session'.configOptions = session.configOptions

theorem Session.Stays.tellsModel {session session' : Session C} (h : session.Stays session')
    (htells : session.TellsModel) : session'.TellsModel := by
  intro value hvalue
  rw [h.configOptions] at hvalue
  have hmodel : session'.summary.model = session.summary.model := congrArg Outline.model h.outline
  rw [hmodel]
  exact htells value hvalue

/-! ## one session -/

/-- From `world` to `world'` a session changes while events are appended to it. -/
structure World.Revises (id : SessionId) (session session' : Session C)
    (events : List SessionEvent) (world world' : World S C) : Prop where
  env : world'.env = world.env
  ticks : world.ticks ≤ world'.ticks
  before : world.inner.sessions.lookup id = some session
  after : world'.inner.sessions.lookup id = some session'
  others : ∀ other, other ≠ id →
    world'.inner.sessions.lookup other = world.inner.sessions.lookup other
  recovered : world'.inner.recovered = world.inner.recovered
  effects : ∃ more, world'.effects = world.effects ++ more ∧
    (appendedTo id more).map (·.event) = events ∧ ∀ other, other ≠ id → appendedTo other more = []

namespace World.Revises

variable {id : SessionId} {session session' session'' : Session C}
  {events events' : List SessionEvent} {world world' world'' : World S C}

theorem trans (h : World.Revises id session session' events world world')
    (h' : World.Revises id session' session'' events' world' world'') :
    World.Revises id session session'' (events ++ events') world world'' := by
  obtain ⟨more, heffects, hself, hothers⟩ := h.effects
  obtain ⟨more', heffects', hself', hothers'⟩ := h'.effects
  refine ⟨h'.env.trans h.env, h.ticks.trans h'.ticks, h.before, h'.after, ?_,
    h'.recovered.trans h.recovered, more ++ more', ?_, ?_, ?_⟩
  · intro other hother
    rw [h'.others other hother, h.others other hother]
  · rw [heffects', heffects, List.append_assoc]
  · rw [appendedTo_append, List.map_append, hself, hself']
  · intro other hother
    rw [appendedTo_append, hothers other hother, hothers' other hother, List.append_nil]

theorem setSession (hlookup : world.inner.sessions.lookup id = some session)
    (session' : Session C) :
    World.Revises id session session' [] world (world.setSession id session') :=
  ⟨rfl, Nat.le_refl _, hlookup, AList.lookup_insert _, fun _ hother => AList.lookup_insert_ne hother,
    rfl, [], (List.append_nil _).symm, rfl, fun _ _ => rfl⟩

variable [SessionStore S]

theorem append (hlookup : world.inner.sessions.lookup id = some session) (event : SessionEvent) :
    World.Revises id session
      (session.record world.inner.journalLimit (world.nextEvent session event)) [event] world
      (world.appended id session (world.nextEvent session event)) := by
  refine ⟨rfl, Nat.le_succ _, hlookup, AList.lookup_insert _,
    fun _ hother => AList.lookup_insert_ne hother, rfl, _, rfl, ?_, ?_⟩
  · rw [appendedTo_appended, if_pos rfl]
    rfl
  · intro other hother
    rw [appendedTo_appended, if_neg (Ne.symm hother)]

end World.Revises

/-! ## steady changes -/

/-- From `world` to `world'` live sessions change as the events appended to them
say, new ones tell their model, and those that were not recovered stay as they are. -/
structure World.Steady (world world' : World S C) : Prop where
  env : world'.env = world.env
  ticks : world.ticks ≤ world'.ticks
  live : ∃ more, world'.effects = world.effects ++ more ∧
    ∀ id session, world.inner.sessions.lookup id = some session →
      ∃ session', world'.inner.sessions.lookup id = some session' ∧
        session'.summary.outline =
          ((appendedTo id more).map (·.event)).foldl Outline.after session.summary.outline ∧
        (session.TellsModel → session'.TellsModel)
  born : ∀ id ∉ world.inner.sessions, ∀ session',
    world'.inner.sessions.lookup id = some session' →
      session'.TellsModel ∧ ∃ n ≥ world.ticks, id = world.env.uuid n
  lost : ∀ id, (world'.inner.recovered.lookup id).map (·.summary.outline) =
    (world.inner.recovered.lookup id).map (·.summary.outline)

namespace World.Steady

variable {world world' world'' : World S C}

/-- Sessions keep outline and options, and nothing is appended. -/
theorem silent {more : List Effect} (henv : world'.env = world.env)
    (hticks : world.ticks ≤ world'.ticks) (heffects : world'.effects = world.effects ++ more)
    (hmore : ∀ id, appendedTo id more = [])
    (hlive : ∀ id session, world.inner.sessions.lookup id = some session →
      ∃ session', world'.inner.sessions.lookup id = some session' ∧ session.Stays session')
    (hborn : ∀ id ∈ world'.inner.sessions, id ∈ world.inner.sessions)
    (hlost : ∀ id, (world'.inner.recovered.lookup id).map (·.summary.outline) =
      (world.inner.recovered.lookup id).map (·.summary.outline)) : world.Steady world' := by
  refine ⟨henv, hticks, ⟨more, heffects, fun id session hlookup => ?_⟩, ?_, hlost⟩
  · obtain ⟨session', hlookup', hstays⟩ := hlive id session hlookup
    refine ⟨session', hlookup', ?_, hstays.tellsModel⟩
    rw [hmore]
    exact hstays.outline
  · intro id hnew session' hlookup'
    exact absurd (hborn id (mem_of_lookup hlookup')) hnew

/-- The sessions stay as they are. -/
theorem of_sessions_eq {more : List Effect} (henv : world'.env = world.env)
    (hticks : world.ticks ≤ world'.ticks) (heffects : world'.effects = world.effects ++ more)
    (hmore : ∀ id, appendedTo id more = [])
    (hsessions : world'.inner.sessions = world.inner.sessions)
    (hlost : ∀ id, (world'.inner.recovered.lookup id).map (·.summary.outline) =
      (world.inner.recovered.lookup id).map (·.summary.outline)) : world.Steady world' := by
  refine silent henv hticks heffects hmore (fun id session hlookup => ?_) (fun id hid => ?_) hlost
  · rw [hsessions]
    exact ⟨session, hlookup, rfl, rfl⟩
  · rw [← hsessions]
    exact hid

theorem refl (world : World S C) : world.Steady world :=
  of_sessions_eq rfl (Nat.le_refl _) (List.append_nil _).symm (fun _ => rfl) rfl fun _ => rfl

theorem trans (h : world.Steady world') (h' : world'.Steady world'') : world.Steady world'' := by
  obtain ⟨more, heffects, hlive⟩ := h.live
  obtain ⟨more', heffects', hlive'⟩ := h'.live
  refine ⟨h'.env.trans h.env, h.ticks.trans h'.ticks, ⟨more ++ more', ?_, ?_⟩, ?_, ?_⟩
  · rw [heffects', heffects, List.append_assoc]
  · intro id session hlookup
    obtain ⟨between, hbetween, houtline, htells⟩ := hlive id session hlookup
    obtain ⟨session', hlookup', houtline', htells'⟩ := hlive' id between hbetween
    refine ⟨session', hlookup', ?_, fun h => htells' (htells h)⟩
    rw [houtline', houtline, appendedTo_append, List.map_append, List.foldl_append]
  · intro id hnew session' hlookup'
    by_cases hbetween : id ∈ world'.inner.sessions
    · obtain ⟨between, hlookup⟩ := exists_lookup_of_mem hbetween
      obtain ⟨htells, huuid⟩ := h.born id hnew between hlookup
      obtain ⟨session'', hlookup'', -, htells'⟩ := hlive' id between hlookup
      have hsame : session'' = session' := Option.some.inj (hlookup''.symm.trans hlookup')
      rw [← hsame]
      exact ⟨htells' htells, huuid⟩
    · obtain ⟨htells, n, hn, hid⟩ := h'.born id hbetween session' hlookup'
      exact ⟨htells, n, h.ticks.trans hn, by rw [hid, h.env]⟩
  · intro id
    rw [h'.lost, h.lost]

theorem of_performs {α : Type} {m : Manager S C α} (hm : m.Performs World.Steady)
    (world : World S C) : world.Steady (m.final world) :=
  hm.preserves (fun _ _ hstep hbetween => hbetween.trans hstep) (refl world)

/-- One session changes as the events appended to it say. -/
theorem of_revises {id : SessionId} {session session' : Session C} {events : List SessionEvent}
    (h : World.Revises id session session' events world world')
    (houtline : session'.summary.outline = events.foldl Outline.after session.summary.outline)
    (htells : session.TellsModel → session'.TellsModel) : world.Steady world' := by
  obtain ⟨more, heffects, hself, hothers⟩ := h.effects
  refine ⟨h.env, h.ticks, ⟨more, heffects, fun other session₁ hlookup => ?_⟩, ?_, ?_⟩
  · by_cases hother : other = id
    · subst hother
      obtain rfl : session = session₁ := Option.some.inj (h.before.symm.trans hlookup)
      refine ⟨session', h.after, ?_, htells⟩
      rw [hself]
      exact houtline
    · refine ⟨session₁, (h.others other hother).trans hlookup, ?_, fun htells => htells⟩
      rw [hothers other hother]
      rfl
  · intro other hnew session₁ hlookup
    have hother : other ≠ id := by
      rintro rfl
      exact hnew (AList.lookup_isSome.mp (by rw [h.before]; rfl))
    rw [h.others other hother] at hlookup
    exact absurd (mem_of_lookup hlookup) hnew
  · intro other
    rw [h.recovered]

/-- Sessions that tell their model go on to do so. -/
theorem tellsModel (h : world.Steady world')
    (hworld : ∀ id session, world.inner.sessions.lookup id = some session → session.TellsModel)
    {id : SessionId} {session' : Session C}
    (hlookup' : world'.inner.sessions.lookup id = some session') : session'.TellsModel := by
  cases hlookup : world.inner.sessions.lookup id with
  | none => exact (h.born id (AList.lookup_eq_none.mp hlookup) session' hlookup').1
  | some session =>
      obtain ⟨more, -, hlive⟩ := h.live
      obtain ⟨session'', hlookup'', -, htells⟩ := hlive id session hlookup
      obtain rfl : session'' = session' := Option.some.inj (hlookup''.symm.trans hlookup')
      exact htells (hworld id session hlookup)

/-- A session that was not recovered is not opened, if new ids are not those of such
sessions. -/
theorem not_opened (h : world.Steady world') {id : SessionId}
    (hnew : ∀ n ≥ world.ticks, world.env.uuid n ≠ id) (hid : id ∉ world.inner.sessions) :
    id ∉ world'.inner.sessions := by
  intro hopened
  obtain ⟨session', hlookup'⟩ := exists_lookup_of_mem hopened
  obtain ⟨-, n, hn, huuid⟩ := h.born id hid session' hlookup'
  exact hnew n hn huuid.symm

theorem mem_recovered (h : world.Steady world') {id : SessionId}
    (hid : id ∈ world'.inner.recovered) : id ∈ world.inner.recovered := by
  have hlost := congrArg Option.isSome (h.lost id)
  rw [Option.isSome_map, Option.isSome_map, AList.lookup_isSome.mpr hid] at hlost
  exact AList.lookup_isSome.mp hlost.symm

theorem agentsMove (hmove : world.AgentsMove world') : world.Steady world' := by
  have heffects : world'.effects = world.effects ++ [] := by
    rw [hmove.effects, List.append_nil]
  refine silent hmove.env (Nat.le_of_eq hmove.ticks.symm) heffects (fun _ => rfl) ?_ ?_ ?_
  · intro id session hlookup
    have hproduct := hmove.sessions id
    rw [hlookup, Option.map_some] at hproduct
    obtain ⟨session', hlookup', hsame⟩ := Option.map_eq_some_iff.mp hproduct
    have hsummary : session'.product.summary = session.product.summary := by rw [hsame]
    have hoptions : session'.product.configOptions = session.product.configOptions := by rw [hsame]
    exact ⟨session', hlookup', congrArg SessionSummary.outline hsummary, hoptions⟩
  · intro id hid
    exact (hmove.mem_iff id).mp hid
  · intro id
    rw [hmove.recovered]

end World.Steady

/-! ## what programs do -/

namespace Manager

section

variable {sessionId : SessionId}

theorem exec_modifySession {world : World S C} {session : Session C}
    (hlookup : world.inner.sessions.lookup sessionId = some session)
    (change : Session C → Session C) :
    (modifySession sessionId change : Manager S C Unit).exec world =
      (.ok (), world.setSession sessionId (change session)) := by
  rw [modifySession, exec_bind, exec_lookupSession]
  dsimp only
  rw [hlookup]
  rfl

/-- Without the session, nothing is changed. -/
theorem final_modifySession_bind_none {β : Type} {world : World S C}
    (hlookup : world.inner.sessions.lookup sessionId = none) {change : Session C → Session C}
    {f : Unit → Manager S C β} :
    (modifySession sessionId change >>= f : Manager S C β).final world = (f ()).final world := by
  rw [final_bind, modifySession, exec_bind, exec_lookupSession]
  dsimp only
  rw [hlookup]
  rfl

/-- A program that reads the environment. -/
theorem steady_of_tick {α : Type} {m : Manager S C α}
    (h : ∀ world : World S C, m.final world = { world with ticks := world.ticks + 1 }) :
    m.Performs World.Steady := by
  refine performs_of_step fun world => ?_
  rw [h]
  exact .of_sessions_eq rfl (Nat.le_succ _) (List.append_nil _).symm (fun _ => rfl) rfl fun _ => rfl

theorem steady_contentBlock (content : NormalizedContent) :
    (contentBlock content : Manager S C _).Performs World.Steady := steady_of_tick fun _ => rfl

theorem steady_toolContent (content : NormalizedToolContent) :
    (toolContent content : Manager S C _).Performs World.Steady := steady_of_tick fun _ => rfl

theorem steady_setSession {world : World S C} {session session' : Session C}
    (hlookup : world.inner.sessions.lookup sessionId = some session)
    (hstays : session.Stays session') : world.Steady (world.setSession sessionId session') :=
  .of_revises (.setSession hlookup session') hstays.outline hstays.tellsModel

theorem steady_lookupSession (sessionId : SessionId) :
    (lookupSession sessionId : Manager S C _).Performs World.Steady :=
  performs_of_final_eq fun _ => rfl

theorem steady_requireSession (sessionId : SessionId) :
    (requireSession sessionId : Manager S C _).Performs World.Steady := by
  refine performs_bind (steady_lookupSession sessionId) fun session => ?_
  cases session with
  | none => exact performs_throw _
  | some session => exact performs_pure _

theorem steady_modifySession {change : Session C → Session C}
    (hstays : ∀ session : Session C, session.Stays (change session)) :
    (modifySession sessionId change : Manager S C Unit).Performs World.Steady := by
  refine performs_lookupSession_bind fun world => ?_
  cases hlookup : world.inner.sessions.lookup sessionId with
  | none => exact .refl
  | some session => exact .single (steady_setSession hlookup (hstays session))

theorem steady_call {α : Type} (sessionId : SessionId) (request : C → Except AcpError α × C) :
    (call sessionId request : Manager S C α).Performs World.Steady := by
  refine performs_of_step fun world => ?_
  cases hlookup : world.inner.sessions.lookup sessionId with
  | none =>
      rw [call, final_bind, exec_requireSession_none hlookup]
      exact .refl world
  | some session =>
      rw [final, exec_call hlookup]
      exact steady_setSession hlookup ⟨rfl, rfl⟩

theorem steady_subscribe (sessionId : SessionId) :
    (subscribe sessionId : Manager S C Nat).Performs World.Steady := by
  refine performs_of_step fun world => ?_
  cases hlookup : world.inner.sessions.lookup sessionId with
  | none =>
      rw [subscribe, final_bind, exec_requireSession_none hlookup]
      exact .refl world
  | some session =>
      rw [final, exec_subscribe (mem_of_lookup hlookup)]
      exact .of_sessions_eq rfl (Nat.le_refl _) rfl (fun _ => rfl) rfl fun _ => rfl

variable [SessionStore S]

theorem final_append_bind_none {β : Type} {world : World S C}
    (hlookup : world.inner.sessions.lookup sessionId = none) {event : SessionEvent}
    {f : SequencedEvent → Manager S C β} :
    (append sessionId event >>= f : Manager S C β).final world = world := by
  rw [final_bind, append, exec_bind, exec_requireSession_none hlookup]

theorem steady_append (sessionId : SessionId) {event : SessionEvent} (h : event.isPlain = true) :
    (append sessionId event : Manager S C _).Performs World.Steady := by
  refine performs_of_step fun world => ?_
  cases hlookup : world.inner.sessions.lookup sessionId with
  | none =>
      rw [append, final_bind, exec_requireSession_none hlookup]
      exact .refl world
  | some session =>
      rw [final, exec_append hlookup]
      refine .of_revises (.append hlookup event) ?_ fun htells => htells
      rw [session.outline_record, List.foldl_cons, List.foldl_nil, Outline.after_of_isPlain h]
      rfl

theorem steady_append_discard (sessionId : SessionId) {event : SessionEvent}
    (h : event.isPlain = true) :
    (do let _ ← append sessionId event : Manager S C Unit).Performs World.Steady :=
  performs_discard (steady_append sessionId h)

theorem steady_append_append (sessionId : SessionId) {event event' : SessionEvent}
    (h : event.isPlain = true) (h' : event'.isPlain = true) :
    (do let _ ← append sessionId event
        let _ ← append sessionId event' : Manager S C Unit).Performs World.Steady :=
  performs_bind (steady_append sessionId h) fun _ => steady_append_discard sessionId h'

theorem steady_persistSession (sessionId : SessionId) :
    (persistSession sessionId : Manager S C Unit).Performs World.Steady := by
  refine performs_of_step fun world => ?_
  cases hlookup : world.inner.sessions.lookup sessionId with
  | none =>
      rw [persistSession, final_bind, exec_lookupSession]
      dsimp only
      rw [hlookup]
      exact .refl world
  | some session =>
      rw [final, exec_persistSession hlookup]
      exact .of_sessions_eq rfl (Nat.le_refl _) rfl (fun _ => rfl) rfl fun _ => rfl

/-- The events of an agent that change neither title nor options, nor end the session. -/
theorem steady_applyAgentEvent {event : AgentEvent}
    (hexited : ∀ code reason, event ≠ .exited code reason)
    (hoptions : ∀ options, event ≠ .configOptions options)
    (hinfo : ∀ update, event ≠ .sessionInfo update) :
    (applyAgentEvent sessionId event : Manager S C Unit).Performs World.Steady := by
  cases event with
  | message role content =>
      exact performs_bind (steady_contentBlock content) fun _ => steady_append_discard sessionId rfl
  | thought content =>
      refine performs_bind (steady_of_tick fun _ => rfl) fun now => ?_
      refine performs_bind (steady_modifySession fun session => ⟨rfl, rfl⟩) fun _ => ?_
      exact performs_bind (steady_contentBlock content) fun _ => steady_append_discard sessionId rfl
  | toolCall update =>
      exact performs_bind (performs_mapM steady_toolContent) fun _ =>
        steady_append_discard sessionId rfl
  | plan plan => exact steady_append_discard sessionId rfl
  | availableCommands commands => exact steady_append_discard sessionId rfl
  | configOptions options => exact absurd rfl (hoptions options)
  | sessionInfo update => exact absurd rfl (hinfo update)
  | usage usage => exact steady_append_discard sessionId rfl
  | mode currentModeId =>
      exact performs_bind (steady_modifySession fun session => ⟨rfl, rfl⟩) fun _ =>
        steady_append_discard sessionId rfl
  | permissionRequest request =>
      exact performs_bind (steady_modifySession fun session => ⟨rfl, rfl⟩) fun _ =>
        steady_append_append sessionId rfl rfl
  | diagnostics level message => exact steady_append_discard sessionId rfl
  | turnEnded stopReason =>
      refine performs_bind (steady_lookupSession _) fun session => ?_
      refine performs_bind (steady_modifySession fun session => ⟨rfl, rfl⟩) fun _ => ?_
      refine performs_bind (steady_append sessionId rfl) fun _ => ?_
      refine performs_bind (steady_append sessionId rfl) fun _ => ?_
      by_cases hend : stopReason = .endTurn
      · rw [if_neg (not_not.mpr hend)]
        exact performs_pure _
      · rw [if_pos hend]
        exact steady_append_discard sessionId rfl
  | exited code reason => exact absurd rfl (hexited code reason)
  | failed message => exact steady_append_append sessionId rfl rfl

theorem steady_archiveSession (sessionId : SessionId) (archived : Bool) :
    (archiveSession sessionId archived : Manager S C _).Performs World.Steady := by
  refine performs_lookupSession_bind fun world => ?_
  cases hlookup : world.inner.sessions.lookup sessionId with
  | some session =>
      have hedit : world.Steady (world.setSession sessionId
          { session with summary := { session.summary with archived } }) :=
        steady_setSession hlookup ⟨rfl, rfl⟩
      dsimp only
      rw [final_bind, exec_setSession]
      dsimp only
      rw [final_bind_pure]
      exact .head hedit (steady_persistSession sessionId _)
  | none =>
      dsimp only
      rw [final_bind, exec_get]
      dsimp only
      cases hrecovered : world.inner.recovered.lookup sessionId with
      | none => exact .refl
      | some session =>
          have hlost : ∀ id, ((world.inner.recovered.insert sessionId
              { session with summary := { session.summary with archived } }).lookup id).map
                (·.summary.outline) = (world.inner.recovered.lookup id).map (·.summary.outline) := by
            intro id
            by_cases hid : id = sessionId
            · rw [hid, AList.lookup_insert, hrecovered]
              rfl
            · rw [AList.lookup_insert_ne hid]
          refine .single ?_
          rcases final_archiveRecovered world sessionId session archived with
            hfinal | ⟨stored, -, hfinal⟩
          · dsimp only
            rw [hfinal]
            exact .of_sessions_eq rfl (Nat.le_refl _) (List.append_nil _).symm (fun _ => rfl) rfl hlost
          · dsimp only
            rw [hfinal]
            exact .of_sessions_eq rfl (Nat.le_refl _) rfl (fun _ => rfl) rfl hlost

variable [AcpSession C]

omit [SessionStore S] in
theorem steady_drainSession (sessionId : SessionId) :
    (drainSession sessionId : Manager S C _).Performs World.Steady := by
  refine performs_lookupSession_bind fun world => ?_
  cases hlookup : world.inner.sessions.lookup sessionId with
  | none => exact .refl
  | some session =>
      dsimp only
      rw [final_bind, exec_setSession]
      exact .single (steady_setSession hlookup ⟨rfl, rfl⟩)

theorem steady_sendPrompt (sessionId : SessionId) (text : String) :
    (sendPrompt sessionId text : Manager S C Unit).Performs World.Steady := by
  refine performs_bind (steady_requireSession _) fun session => ?_
  split
  · refine performs_bind (steady_call _ _) fun _ => ?_
    refine performs_bind (steady_modifySession fun session => ⟨rfl, rfl⟩) fun _ => ?_
    exact performs_bind (steady_contentBlock _) fun _ => steady_append_append sessionId rfl rfl
  · exact performs_throw _

theorem steady_setMode (sessionId : SessionId) (modeId : String) :
    (setMode sessionId modeId : Manager S C Unit).Performs World.Steady :=
  performs_bind (steady_call _ _) fun _ =>
    performs_bind (steady_modifySession fun _ => ⟨rfl, rfl⟩) fun _ =>
      steady_append_discard sessionId rfl

theorem steady_cancel (sessionId : SessionId) :
    (cancel sessionId : Manager S C Unit).Performs World.Steady :=
  performs_bind (steady_call _ _) fun _ =>
    performs_bind (steady_modifySession fun _ => ⟨rfl, rfl⟩) fun _ =>
      steady_append_append sessionId rfl rfl

theorem steady_respondPermission (sessionId : SessionId) (permissionId optionId : String) :
    (respondPermission sessionId permissionId optionId : Manager S C Unit).Performs
      World.Steady := by
  refine performs_bind (steady_requireSession _) fun session => ?_
  cases session.pendingPermission with
  | none => exact performs_throw _
  | some pending =>
      dsimp only
      split
      · exact performs_throw _
      · refine performs_bind (steady_call _ _) fun _ => ?_
        exact performs_bind (steady_modifySession fun _ => ⟨rfl, rfl⟩) fun _ =>
          steady_append_append sessionId rfl rfl

end

/-! ### revisions -/

section

variable {sessionId : SessionId} {session session' : Session C} {world : World S C}
  [SessionStore S]

/-- An edit, and the event that tells of it. -/
theorem steady_edit_append (hlookup : world.inner.sessions.lookup sessionId = some session)
    (event : SessionEvent)
    (houtline : { session'.summary.outline with
      status := event.status?.getD session'.summary.status } = session.summary.outline.after event)
    (htells : session.TellsModel → session'.TellsModel) :
    world.Steady ((append sessionId event : Manager S C _).final
      (world.setSession sessionId session')) := by
  have hlookup' : (world.setSession sessionId session').inner.sessions.lookup sessionId =
      some session' := AList.lookup_insert _
  rw [final, exec_append hlookup']
  refine .of_revises ((World.Revises.setSession hlookup session').trans (.append hlookup' event)) ?_
    htells
  rw [Session.outline_record]
  exact houtline

/-- The edit of a session that may not be there, and the event that tells of it. -/
theorem steady_modify_append (sessionId : SessionId) {change : Session C → Session C}
    {event : SessionEvent}
    (houtline : ∀ session ∈ world.inner.sessions.lookup sessionId,
      { (change session).summary.outline with
        status := event.status?.getD (change session).summary.status } =
          session.summary.outline.after event)
    (htells : ∀ session ∈ world.inner.sessions.lookup sessionId,
      session.TellsModel → (change session).TellsModel) :
    world.Steady ((do
      modifySession sessionId change
      let _ ← append sessionId event : Manager S C Unit).final world) := by
  cases hlookup : world.inner.sessions.lookup sessionId with
  | none =>
      rw [final_modifySession_bind_none hlookup, final_append_bind_none hlookup]
      exact .refl world
  | some session =>
      rw [final_bind, exec_modifySession hlookup]
      dsimp only
      rw [final_discard]
      exact steady_edit_append hlookup event (houtline session hlookup) (htells session hlookup)

/-- The end of a session: the client takes it from the exit, the manager from the
status that follows. -/
theorem steady_exit (hlookup : world.inner.sessions.lookup sessionId = some session)
    (hstays : session.Stays session') (payload : ExitPayload) :
    world.Steady ((do
      let _ ← append sessionId (.exit payload)
      let _ ← append sessionId (.status ⟨.exited⟩) : Manager S C Unit).final
        (world.setSession sessionId session')) := by
  have hlookup' : (world.setSession sessionId session').inner.sessions.lookup sessionId =
      some session' := AList.lookup_insert _
  rw [final_bind, exec_append hlookup']
  dsimp only
  generalize hbetween : (world.setSession sessionId session').appended sessionId session'
    ((world.setSession sessionId session').nextEvent session' (.exit payload)) = between
  have hexit := World.Revises.append hlookup' (.exit payload)
  rw [hbetween] at hexit
  rw [final_discard, final, exec_append hexit.after]
  refine .of_revises (((World.Revises.setSession hlookup session').trans hexit).trans
    (.append hexit.after (.status ⟨.exited⟩))) ?_ hstays.tellsModel
  rw [Session.outline_record, Session.outline_record, hstays.outline]
  rfl

theorem steady_exited (code : Option Int32) (reason : String) (world : World S C) :
    world.Steady ((applyAgentEvent sessionId (.exited code reason) : Manager S C Unit).final
      world) := by
  cases hlookup : world.inner.sessions.lookup sessionId with
  | none =>
      rw [applyAgentEvent, final_modifySession_bind_none hlookup, final_append_bind_none hlookup]
      exact .refl world
  | some session =>
      rw [applyAgentEvent, final_bind, exec_modifySession hlookup]
      dsimp only
      refine steady_exit hlookup ?_ { code, reason }
      exact ⟨rfl, rfl⟩

theorem steady_ensureExited (world : World S C) :
    world.Steady ((ensureExited sessionId : Manager S C Unit).final world) := by
  rw [ensureExited, final_bind, exec_lookupSession]
  dsimp only
  cases hlookup : world.inner.sessions.lookup sessionId with
  | none => exact .refl world
  | some session =>
      dsimp only
      split
      · exact .refl world
      · rw [final_bind, exec_modifySession hlookup]
        dsimp only
        refine steady_exit hlookup ?_ { code := none, reason := "agent_exited" }
        exact ⟨rfl, rfl⟩

end

end Manager

/-! ## what keeps a client in step -/

/-- The options have no other model than the summary: neither the one a client reads
off them nor the one the manager does. -/
structure SessionSummary.SameModel (summary : SessionSummary) (options : List AcpConfigOption) :
    Prop where
  shown : ∀ value ∈ shownModel (options.map .reread), summary.model = some value
  current : ∀ value ∈ currentConfigValue options .model, summary.model = some value

instance (summary : SessionSummary) (options : List AcpConfigOption) :
    Decidable (summary.SameModel options) :=
  decidable_of_iff
    ((∀ value ∈ shownModel (options.map .reread), summary.model = some value) ∧
      ∀ value ∈ currentConfigValue options .model, summary.model = some value)
    ⟨fun h => ⟨h.1, h.2⟩, fun h => ⟨h.shown, h.current⟩⟩

/-- The client makes of such options what the manager does: nothing. -/
theorem SessionSummary.SameModel.outline_after {summary : SessionSummary}
    {options : List AcpConfigOption} (h : summary.SameModel options) :
    summary.outline = summary.outline.after (.configOptions ⟨options⟩) := by
  have hmodel : (shownModel (options.map .reread)).or summary.model = summary.model := by
    cases hshown : shownModel (options.map .reread) with
    | none => rfl
    | some value => exact (h.shown value hshown).symm
  show summary.outline = { summary.outline with
    model := (shownModel (options.map .reread)).or summary.model }
  rw [hmodel]
  rfl

/-- A client takes the new title from the snapshot, if the snapshot decodes. -/
theorem SessionSummary.outline_renamed {summary : SessionSummary} {title : String}
    (h : title ≠ summary.title → (Slight.received summary.lastSequence).isSome = true)
    (pendingPermission : Option PermissionRequestPayload) :
    ({ summary with title } : SessionSummary).outline = summary.outline.after
      (.snapshot { summary := { summary with title }, pendingPermission }) := by
  rw [Outline.after_snapshot]
  dsimp only
  by_cases hsame : title = summary.title
  · rw [hsame, ite_self]
  · rw [if_pos (h hsame)]

/-- The model asked for, if any, is the one the agent has chosen. -/
def Start.AsksModel (start : Start) (options : List AcpConfigOption) : Prop :=
  ∀ value ∈ currentConfigValue options .model, ∀ model ∈ start.model, model = value

instance (start : Start) (options : List AcpConfigOption) : Decidable (start.AsksModel options) :=
  inferInstanceAs (Decidable (∀ value ∈ currentConfigValue options .model,
    ∀ model ∈ start.model, model = value))

/-- The agent reports neither another model nor another title. -/
def AgentEvent.InStep (summary : SessionSummary) : AgentEvent → Prop
  | .configOptions options => summary.SameModel options
  | .sessionInfo update =>
      ∀ title ∈ update.title.join.filter fun title => trim title ≠ "", title = summary.title
  | _ => True

instance (summary : SessionSummary) (event : AgentEvent) : Decidable (event.InStep summary) := by
  cases event <;> unfold AgentEvent.InStep <;> infer_instance

/-- The move keeps clients in step. -/
def InStep [AcpSession C] (world : World S C) : Move C → Prop
  | .call (.apply id event) =>
      ∀ session ∈ world.inner.sessions.lookup id, event.InStep session.summary
  | .call (.setConfigOption id configId valueId) =>
      ∀ session ∈ world.inner.sessions.lookup id, ∀ options,
        (AcpSession.setConfigOption session.connection configId valueId).1 = .ok options →
          session.summary.SameModel options
  | .call (.renameSession id title) =>
      ∀ session ∈ world.inner.sessions.lookup id, trim title ≠ "" →
        trim title ≠ session.summary.title → (received session.summary.lastSequence).isSome = true
  | .call (.enroll build _) => ∃ (handshake : Handshake C) (start : Start) (home : String)
      (now : Int) (gitBranch : Option String),
      build = handshake.session start home now gitBranch ∧
        start.AsksModel handshake.metadata.configOptions
  | _ => True

/-- **A session is opened** telling its model exactly if no other was asked for. -/
theorem Handshake.tellsModel_session_iff (handshake : Handshake C) (start : Start) (home : String)
    (now : Int) (gitBranch : Option String) (id : SessionId) :
    (handshake.session start home now gitBranch id).TellsModel ↔
      start.AsksModel handshake.metadata.configOptions := by
  show (∀ value ∈ currentConfigValue handshake.metadata.configOptions .model,
    start.model.or (currentConfigValue handshake.metadata.configOptions .model) = some value) ↔ _
  refine forall₂_congr fun value hvalue => ?_
  rw [Option.mem_def.mp hvalue]
  cases start.model <;> simp

namespace World

variable [SessionStore S] {world world' : World S C}

theorem steady_enroll {build : SessionId → Session C} (htells : ∀ id, (build id).TellsModel)
    (hnew : world.env.uuid world.ticks ∉ world.inner.sessions) :
    world.Steady ((Manager.enrollSession build : Manager S C _).final world) := by
  have hlookup : (world.registered build).inner.sessions.lookup (world.env.uuid world.ticks) =
      some (build (world.env.uuid world.ticks)) := AList.lookup_insert _
  have hothers : ∀ id, id ≠ world.env.uuid world.ticks →
      (world.registered build).inner.sessions.lookup id = world.inner.sessions.lookup id :=
    fun id hid => AList.lookup_insert_ne hid
  have hregistered : world.Steady (world.registered build) := by
    refine ⟨rfl, Nat.le_succ _, ⟨_, rfl, fun id session hold => ?_⟩, ?_, fun id => rfl⟩
    · have hid : id ≠ world.env.uuid world.ticks := by
        rintro rfl
        exact hnew (mem_of_lookup hold)
      exact ⟨session, (hothers id hid).trans hold, rfl, fun h => h⟩
    · intro id hunborn session' hborn
      by_cases hid : id = world.env.uuid world.ticks
      · rw [hid, hlookup, Option.some.injEq] at hborn
        rw [← hborn]
        exact ⟨htells _, world.ticks, Nat.le_refl _, hid⟩
      · rw [hothers id hid] at hborn
        exact absurd (mem_of_lookup hborn) hunborn
  rw [Manager.final_enrollSession]
  refine hregistered.trans (.of_revises (.append hlookup (.status ⟨.idle⟩)) ?_ fun h => h)
  rw [Session.outline_record]
  rfl

/-- **An agent's event** keeps clients in step if it brings no other title and no other
model. -/
theorem steady_apply {id : SessionId} {event : AgentEvent}
    (hstep : ∀ session ∈ world.inner.sessions.lookup id, event.InStep session.summary) :
    world.Steady ((Manager.applyAgentEvent id event : Manager S C Unit).final world) := by
  cases event with
  | exited code reason => exact Manager.steady_exited code reason world
  | configOptions options =>
      rw [Manager.applyAgentEvent]
      refine Manager.steady_modify_append id (fun session hlookup => ?_) fun session hlookup _ => ?_
      · have hsame : session.summary.SameModel options := hstep session hlookup
        exact hsame.outline_after
      · have hsame : session.summary.SameModel options := hstep session hlookup
        exact hsame.current
  | sessionInfo update =>
      rw [Manager.applyAgentEvent]
      dsimp only
      refine Manager.steady_modify_append id (fun session hlookup => ?_) fun session hlookup h => ?_
      · have htitle : ∀ title ∈ update.title.join.filter fun title => trim title ≠ "",
            title = session.summary.title := hstep session hlookup
        cases hfilter : update.title.join.filter fun title => trim title ≠ "" with
        | none => rfl
        | some title =>
            have hsame : title = session.summary.title := htitle title hfilter
            rw [hsame]
            rfl
      · cases update.title.join.filter fun title => trim title ≠ "" with
        | none => exact h
        | some title => exact h
  | _ => exact .of_performs (Manager.steady_applyAgentEvent (by simp) (by simp) (by simp)) world

theorem steady_renameSession {id : SessionId} {title : String}
    (hstep : ∀ session ∈ world.inner.sessions.lookup id, trim title ≠ "" →
      trim title ≠ session.summary.title →
        (received session.summary.lastSequence).isSome = true) :
    world.Steady ((Manager.renameSession id title : Manager S C _).final world) := by
  unfold Manager.renameSession
  dsimp only
  split
  · exact .refl world
  · next htitle =>
      rw [final_bind]
      cases hlookup : world.inner.sessions.lookup id with
      | none =>
          rw [Manager.exec_requireSession_none hlookup]
          exact .refl world
      | some session =>
          rw [Manager.exec_requireSession hlookup]
          dsimp only
          rw [final_bind, Manager.exec_setSession]
          dsimp only
          have hheld := hstep session hlookup htitle
          generalize hsummary : ({ session.summary with title := trim title } : SessionSummary) =
            summary
          have hlookup' : (world.setSession id { session with summary }).inner.sessions.lookup id =
              some { session with summary } := AList.lookup_insert _
          have houtline : summary.outline = session.summary.outline.after
              (.snapshot { summary, pendingPermission := session.pendingPermission }) := by
            rw [← hsummary]
            exact SessionSummary.outline_renamed hheld _
          have htells : session.TellsModel → ({ session with summary } : Session C).TellsModel := by
            rw [← hsummary]
            exact fun h => h
          have happend : world.Steady ((Manager.append id (.snapshot
              { summary, pendingPermission := session.pendingPermission }) : Manager S C _).final
                (world.setSession id { session with summary })) :=
            Manager.steady_edit_append hlookup _ (Eq.trans (by rfl) houtline) htells
          rw [final, Manager.exec_append hlookup'] at happend
          rw [final_bind, Manager.exec_append hlookup']
          exact happend.trans (.of_performs (performs_bind (Manager.steady_requireSession id)
            fun session => performs_pure session.summary) _)

variable [AcpSession C]

theorem steady_setConfigOption {id : SessionId} {configId valueId : String}
    (hstep : ∀ session ∈ world.inner.sessions.lookup id, ∀ options,
      (AcpSession.setConfigOption session.connection configId valueId).1 = .ok options →
        session.summary.SameModel options) :
    world.Steady ((Manager.setConfigOption id configId valueId : Manager S C Unit).final world) := by
  rw [Manager.setConfigOption, final_bind]
  cases hlookup : world.inner.sessions.lookup id with
  | none =>
      rw [Manager.call, exec_bind, Manager.exec_requireSession_none hlookup]
      exact .refl world
  | some session =>
      rw [Manager.exec_call hlookup]
      have hmoved : world.Steady (world.setSession id { session with
          connection := (AcpSession.setConfigOption session.connection configId valueId).2 }) :=
        Manager.steady_setSession hlookup ⟨rfl, rfl⟩
      cases hanswer : (AcpSession.setConfigOption session.connection configId valueId).1 with
      | error error => exact hmoved
      | ok options =>
          have hsame := hstep session hlookup options hanswer
          have hlookup' : (world.setSession id { session with
              connection := (AcpSession.setConfigOption session.connection configId
                valueId).2 }).inner.sessions.lookup id = some { session with
              connection := (AcpSession.setConfigOption session.connection configId valueId).2 } :=
            AList.lookup_insert _
          refine hmoved.trans ?_
          dsimp only [Except.mapError]
          rw [final_bind, Manager.exec_modifySession hlookup']
          dsimp only
          rw [final_discard]
          exact Manager.steady_edit_append hlookup' _ hsame.outline_after fun _ => hsame.current

/-- **A move keeps clients in step.** -/
theorem steady_move {move : Move C} (hstep : InStep world move)
    (hnew : world.env.uuid world.ticks ∉ world.inner.sessions) (hmove : world.Takes move world') :
    world.Steady world' := by
  cases move with
  | agents => exact .agentsMove hmove
  | call call =>
      rw [show world' = (call.run : Manager S C Unit).final world from hmove]
      cases call with
      | tick => exact .of_performs (performs_discard (Manager.steady_of_tick fun _ => rfl)) world
      | request kind => exact .of_sessions_eq rfl (Nat.le_refl _) rfl (fun _ => rfl) rfl fun _ => rfl
      | enroll build hnewborn =>
          obtain ⟨handshake, start, home, now, gitBranch, rfl, hasks⟩ := hstep
          rw [Call.run, final_discard]
          exact steady_enroll
            (fun id => (handshake.tellsModel_session_iff start home now gitBranch id).mpr hasks) hnew
      | drain id => exact .of_performs (performs_discard (Manager.steady_drainSession id)) world
      | apply id event => exact steady_apply hstep
      | ensureExited id => exact Manager.steady_ensureExited world
      | sendPrompt id text => exact .of_performs (Manager.steady_sendPrompt id text) world
      | setMode id modeId => exact .of_performs (Manager.steady_setMode id modeId) world
      | setConfigOption id configId valueId => exact steady_setConfigOption hstep
      | cancel id => exact .of_performs (Manager.steady_cancel id) world
      | respondPermission id permissionId optionId =>
          exact .of_performs (Manager.steady_respondPermission id permissionId optionId) world
      | renameSession id title =>
          rw [Call.run, final_discard]
          exact steady_renameSession hstep
      | archiveSession id archived =>
          exact .of_performs (performs_discard (Manager.steady_archiveSession id archived)) world
      | subscribe id => exact .of_performs (performs_discard (Manager.steady_subscribe id)) world

end World

end Slight
