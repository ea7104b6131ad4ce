import Slight.Session.Partition

/-!
# Slight.Session.Readback

What becomes of a journal entry that is stored and read again.  It comes back as
`reread` says: as it was, but that a raw tool input or output of `null` is absent
and a category spelled like a known one is the known one.  Only an agent's tool
calls and configuration options can hold such values (`appends_run`), and every
row that the host leaves in its database is an entry that decodes.
-/

namespace Slight

open Support Program

/-! ## entries that come back as they were -/

/-- A category that is not another one's name. -/
def AcpConfigCategory.Unambiguous : AcpConfigCategory → Prop
  | other value => value ∉ ["mode", "model", "model_config", "thought_level"]
  | _ => True

def AcpConfigOption.ReadsBack (option : AcpConfigOption) : Prop :=
  ∀ category ∈ option.category, category.Unambiguous

/-- What a session event must not hold to come back as it was. -/
def SessionEvent.ReadsBack : SessionEvent → Prop
  | toolCall payload => payload.rawInput ≠ some .null ∧ payload.rawOutput ≠ some .null
  | configOptions payload => ∀ option ∈ payload.options, option.ReadsBack
  | _ => True

/-- The same of an agent's event. -/
def AgentEvent.ReadsBack : AgentEvent → Prop
  | toolCall update => update.rawInput ≠ some .null ∧ update.rawOutput ≠ some .null
  | configOptions options => ∀ option ∈ options, option.ReadsBack
  | _ => True

theorem AcpConfigCategory.reread_eq_iff (category : AcpConfigCategory) :
    category.reread = category ↔ category.Unambiguous := by
  cases category with
  | other value =>
      rw [reread, toText, ofText, Unambiguous]
      grind
  | _ => exact ⟨fun _ => trivial, fun _ => by decide⟩

theorem AcpConfigOption.reread_eq_iff (option : AcpConfigOption) :
    option.reread = option ↔ option.ReadsBack := by
  obtain ⟨id, name, description, category, kind⟩ := option
  cases category with
  | none => simp [reread, ReadsBack]
  | some category =>
      simp [reread, ReadsBack, AcpConfigCategory.reread_eq_iff]

theorem rereadRaw_eq_iff (raw : Option Json) : rereadRaw raw = raw ↔ raw ≠ some .null := by
  cases raw with
  | none => simp [rereadRaw]
  | some j => cases j <;> simp [rereadRaw]

/-- **An event comes back as it was** exactly if it holds no such value. -/
theorem SessionEvent.reread_eq_iff (event : SessionEvent) :
    event.reread = event ↔ event.ReadsBack := by
  cases event with
  | toolCall payload =>
      rw [reread, toolCall.injEq, ToolCallPayload.reread, ToolCallPayload.mk.injEq, ReadsBack,
        ← rereadRaw_eq_iff, ← rereadRaw_eq_iff]
      simp only [true_and]
  | configOptions payload =>
      have hmap : payload.options.map .reread = payload.options ↔
          ∀ option ∈ payload.options, option.reread = option := by
        rw [← List.map_inj_left, List.map_id']
      rw [reread, configOptions.injEq, ConfigOptionsPayload.mk.injEq, hmap]
      exact forall₂_congr fun option _ => option.reread_eq_iff
  | _ => exact ⟨fun _ => trivial, fun _ => rfl⟩

theorem SequencedEvent.reread_eq_iff (event : SequencedEvent) :
    event.reread = event ↔ event.event.ReadsBack := by
  rw [← SessionEvent.reread_eq_iff]
  obtain ⟨sequence, timestampMs, event⟩ := event
  simp [reread]

/-! ## what programs append -/

variable {S C : Type}

/-- From `world` to `world'` only events that satisfy `P` are appended. -/
def World.Appends (P : SessionEvent → Prop) (world world' : World S C) : Prop :=
  ∃ more, world'.effects = world.effects ++ more ∧
    ∀ id event, .appended id event ∈ more → P event.event

namespace World.Appends

variable {P : SessionEvent → Prop} {world world' world'' : World S C}

theorem trans (h : world.Appends P world') (h' : world'.Appends P world'') :
    world.Appends P world'' := by
  obtain ⟨more, heffects, hmore⟩ := h
  obtain ⟨more', heffects', hmore'⟩ := h'
  refine ⟨more ++ more', ?_, fun id event hmem => ?_⟩
  · rw [heffects', heffects, List.append_assoc]
  · exact (List.mem_append.mp hmem).elim (hmore id event) (hmore' id event)

/-- No event. -/
theorem silent {more : List Effect} (heffects : world'.effects = world.effects ++ more)
    (hmore : ∀ id event, Effect.appended id event ∉ more) : world.Appends P world' :=
  ⟨more, heffects, fun id event hmem => absurd hmem (hmore id event)⟩

theorem of_effects_eq (h : world'.effects = world.effects) : world.Appends P world' :=
  silent (h.trans (List.append_nil _).symm) fun _ _ => List.not_mem_nil

theorem of_performs {α : Type} {m : Manager S C α} (hm : m.Performs (World.Appends P))
    (world : World S C) : world.Appends P (m.final world) :=
  hm.preserves (fun _ _ hstep hbetween => hbetween.trans hstep) (of_effects_eq rfl)

end World.Appends

namespace Manager

section

variable {P : SessionEvent → Prop}

theorem appends_of_effects_eq {α : Type} {m : Manager S C α}
    (h : ∀ world, (m.final world).effects = world.effects) : m.Performs (World.Appends P) :=
  performs_of_step fun world => .of_effects_eq (h world)

theorem appends_lookupSession (sessionId : SessionId) :
    (lookupSession sessionId : Manager S C _).Performs (World.Appends P) :=
  appends_of_effects_eq fun _ => rfl

theorem appends_requireSession (sessionId : SessionId) :
    (requireSession sessionId : Manager S C _).Performs (World.Appends P) := by
  refine performs_bind (appends_lookupSession sessionId) fun session => ?_
  cases session with
  | none => exact performs_throw _
  | some session => exact performs_pure _

theorem appends_setSession (sessionId : SessionId) (session : Session C) :
    (setSession sessionId session : Manager S C _).Performs (World.Appends P) :=
  appends_of_effects_eq fun _ => rfl

theorem appends_modifySession (sessionId : SessionId) (change : Session C → Session C) :
    (modifySession sessionId change : Manager S C Unit).Performs (World.Appends P) := by
  refine performs_bind (appends_lookupSession sessionId) fun session => ?_
  cases session with
  | none => exact performs_pure _
  | some session => exact appends_setSession _ _

theorem appends_contentBlock (content : NormalizedContent) :
    (contentBlock content : Manager S C _).Performs (World.Appends P) :=
  appends_of_effects_eq fun _ => rfl

theorem appends_toolContent (content : NormalizedToolContent) :
    (toolContent content : Manager S C _).Performs (World.Appends P) :=
  appends_of_effects_eq fun _ => rfl

theorem appends_nowMs : (nowMs : Manager S C Int).Performs (World.Appends P) :=
  appends_of_effects_eq fun _ => rfl

theorem appends_call {α : Type} (sessionId : SessionId) (request : C → Except AcpError α × C) :
    (call sessionId request : Manager S C α).Performs (World.Appends P) := by
  refine performs_bind (appends_requireSession sessionId) fun session => ?_
  refine performs_bind (appends_setSession _ _) fun _ => ?_
  split
  · exact performs_pure _
  · exact performs_throw _

variable [SessionStore S]

theorem appends_writeStore (write : StoreWrite) :
    (writeStore write : Manager S C Unit).Performs (World.Appends P) :=
  performs_of_step fun world => .silent rfl (by simp)

theorem appends_append (sessionId : SessionId) {event : SessionEvent} (h : P event) :
    (append sessionId event : Manager S C _).Performs (World.Appends P) := by
  refine performs_of_step fun world => ?_
  cases hlookup : world.inner.sessions.lookup sessionId with
  | none =>
      rw [append, final_bind, exec_requireSession_none hlookup]
      exact .of_effects_eq rfl
  | some session =>
      rw [final, exec_append hlookup]
      refine ⟨_, rfl, fun id sequenced hmem => ?_⟩
      simp only [List.mem_cons, Effect.appended.injEq, reduceCtorEq, List.not_mem_nil, or_false]
        at hmem
      rw [hmem.2]
      exact h

theorem appends_append_discard (sessionId : SessionId) {event : SessionEvent} (h : P event) :
    (do let _ ← append sessionId event : Manager S C Unit).Performs (World.Appends P) :=
  performs_discard (appends_append sessionId h)

theorem appends_append_append (sessionId : SessionId) {event event' : SessionEvent} (h : P event)
    (h' : P event') :
    (do let _ ← append sessionId event
        let _ ← append sessionId event' : Manager S C Unit).Performs (World.Appends P) :=
  performs_bind (appends_append sessionId h) fun _ => appends_append_discard sessionId h'

/-! ### calls -/

/-- **An agent's event** that comes back as it was is journaled by events that do. -/
theorem appends_applyAgentEvent (sessionId : SessionId) {event : AgentEvent}
    (h : event.ReadsBack) :
    (applyAgentEvent sessionId event : Manager S C Unit).Performs
      (World.Appends SessionEvent.ReadsBack) := by
  cases event with
  | message role content =>
      exact performs_bind (appends_contentBlock _) fun _ =>
        appends_append_discard sessionId trivial
  | thought content =>
      refine performs_bind appends_nowMs fun now => ?_
      refine performs_bind (appends_modifySession _ _) fun _ => ?_
      exact performs_bind (appends_contentBlock _) fun _ =>
        appends_append_discard sessionId trivial
  | toolCall update =>
      exact performs_bind (performs_mapM appends_toolContent) fun _ =>
        appends_append_discard sessionId h
  | plan plan => exact appends_append_discard sessionId trivial
  | availableCommands commands => exact appends_append_discard sessionId trivial
  | configOptions options =>
      exact performs_bind (appends_modifySession _ _) fun _ => appends_append_discard sessionId h
  | sessionInfo update =>
      exact performs_bind (appends_modifySession _ _) fun _ =>
        appends_append_discard sessionId trivial
  | usage usage => exact appends_append_discard sessionId trivial
  | mode currentModeId =>
      exact performs_bind (appends_modifySession _ _) fun _ =>
        appends_append_discard sessionId trivial
  | permissionRequest request =>
      exact performs_bind (appends_modifySession _ _) fun _ =>
        appends_append_append sessionId trivial trivial
  | diagnostics level message => exact appends_append_discard sessionId trivial
  | turnEnded stopReason =>
      refine performs_bind (appends_lookupSession _) fun session => ?_
      refine performs_bind (appends_modifySession _ _) fun _ => ?_
      refine performs_bind (appends_append sessionId trivial) fun _ => ?_
      refine performs_bind (appends_append sessionId trivial) fun _ => ?_
      by_cases hend : stopReason = .endTurn
      · rw [if_neg (not_not.mpr hend)]
        exact performs_pure _
      · rw [if_pos hend]
        exact appends_append_discard sessionId trivial
  | exited code reason =>
      exact performs_bind (appends_modifySession _ _) fun _ =>
        appends_append_append sessionId trivial trivial
  | failed message => exact appends_append_append sessionId trivial trivial

theorem appends_ensureExited (sessionId : SessionId) :
    (ensureExited sessionId : Manager S C Unit).Performs
      (World.Appends SessionEvent.ReadsBack) := by
  refine performs_bind (appends_lookupSession _) fun session => ?_
  cases session with
  | none => exact performs_pure _
  | some session =>
      dsimp only
      split
      · exact performs_pure _
      · exact performs_bind (appends_modifySession _ _) fun _ =>
          appends_append_append sessionId trivial trivial

theorem appends_renameSession (sessionId : SessionId) (title : String) :
    (renameSession sessionId title : Manager S C _).Performs
      (World.Appends SessionEvent.ReadsBack) := by
  unfold renameSession
  dsimp only
  split
  · exact performs_throw _
  · refine performs_bind (appends_requireSession _) fun session => ?_
    refine performs_bind (appends_setSession _ _) fun _ => ?_
    refine performs_bind (appends_append sessionId trivial) fun _ => ?_
    exact performs_bind (appends_requireSession _) fun _ => performs_pure _

theorem appends_persistSession (sessionId : SessionId) :
    (persistSession sessionId : Manager S C Unit).Performs (World.Appends P) := by
  refine performs_bind (appends_lookupSession sessionId) fun session => ?_
  cases session with
  | none => exact performs_pure _
  | some session => exact appends_writeStore _

theorem appends_archiveSession (sessionId : SessionId) (archived : Bool) :
    (archiveSession sessionId archived : Manager S C _).Performs (World.Appends P) := by
  refine performs_bind (appends_lookupSession sessionId) fun session => ?_
  cases session with
  | some session =>
      refine performs_bind (appends_setSession _ _) fun _ => ?_
      exact performs_bind (appends_persistSession _) fun _ => performs_pure _
  | none =>
      refine performs_bind performs_get fun world => ?_
      cases world.inner.recovered.lookup sessionId with
      | none => exact performs_throw _
      | some session =>
          dsimp only
          refine performs_of_step fun world => ?_
          rcases final_archiveRecovered world sessionId session archived with
            hfinal | ⟨stored, -, hfinal⟩
          · rw [hfinal]
            exact .of_effects_eq rfl
          · rw [hfinal]
            exact .silent rfl (by simp)

theorem appends_enrollSession (build : SessionId → Session C) :
    (enrollSession build : Manager S C _).Performs (World.Appends SessionEvent.ReadsBack) := by
  refine performs_bind ?_ fun id => performs_bind (appends_append id trivial) fun _ =>
    performs_pure _
  refine performs_bind (appends_of_effects_eq fun _ => rfl) fun id => ?_
  refine performs_bind (appends_setSession _ _) fun _ => ?_
  exact performs_bind (appends_persistSession _) fun _ => performs_pure _

variable [AcpSession C]

theorem appends_sendPrompt (sessionId : SessionId) (text : String) :
    (sendPrompt sessionId text : Manager S C Unit).Performs
      (World.Appends SessionEvent.ReadsBack) := by
  refine performs_bind (appends_requireSession _) fun session => ?_
  split
  · refine performs_bind (appends_call _ _) fun _ => ?_
    refine performs_bind (appends_modifySession _ _) fun _ => ?_
    exact performs_bind (appends_contentBlock _) fun _ =>
      appends_append_append sessionId trivial trivial
  · exact performs_throw _

theorem appends_setMode (sessionId : SessionId) (modeId : String) :
    (setMode sessionId modeId : Manager S C Unit).Performs
      (World.Appends SessionEvent.ReadsBack) :=
  performs_bind (appends_call _ _) fun _ =>
    performs_bind (appends_modifySession _ _) fun _ => appends_append_discard sessionId trivial

/-- The options that are journaled are those the agent answers with. -/
theorem appends_setConfigOption (sessionId : SessionId) {configId valueId : String}
    (h : ∀ (connection : C) options,
      (AcpSession.setConfigOption connection configId valueId).1 = .ok options →
        ∀ option ∈ options, option.ReadsBack) :
    (setConfigOption sessionId configId valueId : Manager S C Unit).Performs
      (World.Appends SessionEvent.ReadsBack) := by
  refine performs_bind_exec (appends_call _ _) fun world options world' hexec => ?_
  have hoptions : ∀ option ∈ options, option.ReadsBack := by
    cases hlookup : world.inner.sessions.lookup sessionId with
    | none =>
        rw [exec_call_none hlookup] at hexec
        cases hexec
    | some session =>
        rw [exec_call hlookup] at hexec
        refine h session.connection options ?_
        obtain ⟨houtcome, -⟩ := Prod.mk.inj hexec
        cases hanswer : (AcpSession.setConfigOption session.connection configId valueId).1 with
        | error error =>
            rw [hanswer] at houtcome
            cases houtcome
        | ok answer =>
            rw [hanswer] at houtcome
            rw [Except.ok.inj houtcome]
  exact performs_bind (appends_modifySession _ _) fun _ =>
    appends_append_discard sessionId hoptions

theorem appends_cancel (sessionId : SessionId) :
    (cancel sessionId : Manager S C Unit).Performs (World.Appends SessionEvent.ReadsBack) :=
  performs_bind (appends_call _ _) fun _ =>
    performs_bind (appends_modifySession _ _) fun _ =>
      appends_append_append sessionId trivial trivial

theorem appends_respondPermission (sessionId : SessionId) (permissionId optionId : String) :
    (respondPermission sessionId permissionId optionId : Manager S C Unit).Performs
      (World.Appends SessionEvent.ReadsBack) := by
  refine performs_bind (appends_requireSession _) fun session => ?_
  cases session.pendingPermission with
  | none => exact performs_throw _
  | some pending =>
      dsimp only
      split
      · exact performs_throw _
      · refine performs_bind (appends_call _ _) fun _ => ?_
        exact performs_bind (appends_modifySession _ _) fun _ =>
          appends_append_append sessionId trivial trivial

end

end Manager

section

variable [AcpSession C]

/-- What a call must not bring to come back as it was: of an agent's events, and of its
answer to a changed option. -/
def Call.ReadsBack : Call C → Prop
  | apply _ event => event.ReadsBack
  | setConfigOption _ configId valueId => ∀ (connection : C) options,
      (AcpSession.setConfigOption connection configId valueId).1 = .ok options →
        ∀ option ∈ options, option.ReadsBack
  | _ => True

/-- **Every call** journals entries that come back as they were, unless the agent says
something that does not. -/
theorem Call.appends_run [SessionStore S] {call : Call C} (h : call.ReadsBack)
    (world : World S C) : world.Appends SessionEvent.ReadsBack (call.run.final world) := by
  refine World.Appends.of_performs ?_ world
  cases call with
  | tick => exact performs_discard (Manager.appends_of_effects_eq fun _ => rfl)
  | request kind => exact performs_of_step fun world => .silent rfl (by simp)
  | enroll build hnewborn => exact performs_discard (Manager.appends_enrollSession build)
  | drain sessionId =>
      refine performs_discard (performs_bind (Manager.appends_lookupSession _) fun session => ?_)
      cases session with
      | none => exact performs_pure _
      | some session =>
          exact performs_bind (Manager.appends_setSession _ _) fun _ => performs_pure _
  | apply sessionId event => exact Manager.appends_applyAgentEvent sessionId h
  | ensureExited sessionId => exact Manager.appends_ensureExited sessionId
  | sendPrompt sessionId text => exact Manager.appends_sendPrompt sessionId text
  | setMode sessionId modeId => exact Manager.appends_setMode sessionId modeId
  | setConfigOption sessionId configId valueId =>
      exact Manager.appends_setConfigOption sessionId h
  | cancel sessionId => exact Manager.appends_cancel sessionId
  | respondPermission sessionId permissionId optionId =>
      exact Manager.appends_respondPermission sessionId permissionId optionId
  | renameSession sessionId title =>
      exact performs_discard (Manager.appends_renameSession sessionId title)
  | archiveSession sessionId archived =>
      exact performs_discard (Manager.appends_archiveSession sessionId archived)
  | subscribe sessionId =>
      refine performs_discard (performs_of_step fun world => ?_)
      cases hlookup : world.inner.sessions.lookup sessionId with
      | none =>
          rw [Manager.subscribe, final_bind, Manager.exec_requireSession_none hlookup]
          exact .of_effects_eq rfl
      | some session =>
          rw [final, Manager.exec_subscribe (mem_of_lookup hlookup)]
          exact .silent rfl (by simp)

end

/-! ## the rows of the database -/

/-- Every row of `events` is an entry of a journal. -/
def Decodes (store : SqliteStore) : Prop :=
  ∀ id, ∀ row ∈ store.rows id, ∃ event : SequencedEvent, row = event.stored ∧ 0 < event.sequence

namespace Decodes

variable {store : SqliteStore}

theorem apply_upsertSession (h : Decodes store) (row : StoredSession) :
    Decodes ((StoreWrite.upsertSession row).apply store) := h

theorem apply_appendEvent (h : Decodes store) (sessionId : SessionId) {event : SequencedEvent}
    (hpos : 0 < event.sequence) :
    Decodes ((StoreWrite.appendEvent sessionId event.stored).apply store) := by
  rcases Slight.apply_appendEvent store sessionId event.stored with hsame | happend
  · rw [hsame]
    exact h
  · revert happend
    generalize (StoreWrite.appendEvent sessionId event.stored).apply store = store'
    intro happend
    unfold SqliteStore.appendEvent at happend
    split at happend
    · contradiction
    · split at happend
      · rw [← Except.ok.inj happend]
        intro id row hrow
        by_cases hid : id = sessionId
        · rw [SqliteStore.rows, hid, AList.lookup_insert, Option.getD_some] at hrow
          rcases mem_insertRow.mp ((store.trimmed_sublist _).subset hrow) with rfl | hold
          · exact ⟨event, rfl, hpos⟩
          · exact h sessionId row hold
        · rw [SqliteStore.rows, AList.lookup_insert_ne hid] at hrow
          exact h id row hrow
      · contradiction

/-- The rows are those of a list of entries. -/
theorem rows_eq (h : Decodes store) (id : SessionId) :
    ∃ events : List SequencedEvent, store.rows id = events.map SequencedEvent.stored ∧
      ∀ event ∈ events, 0 < event.sequence := by
  have hrows := h id
  generalize store.rows id = rows at hrows ⊢
  induction rows with
  | nil => exact ⟨[], rfl, fun event hmem => absurd hmem List.not_mem_nil⟩
  | cons row rows ih =>
      obtain ⟨event, rfl, hpos⟩ := hrows row List.mem_cons_self
      obtain ⟨events, hevents, hall⟩ := ih fun row hrow => hrows row (List.mem_cons_of_mem _ hrow)
      refine ⟨event :: events, by rw [hevents, List.map_cons], fun other hmem => ?_⟩
      rcases List.mem_cons.mp hmem with rfl | hmem
      · exact hpos
      · exact hall other hmem

/-- An append stores an entry, whatever crashes. -/
theorem append {world : World SqliteStore C} (h : Decodes world.inner.store)
    (sessionId : SessionId) (session : Session C) (event : SessionEvent) :
    let world' := world.appended sessionId session (world.nextEvent session event)
    Decodes world'.inner.store ∧ world.Writes (fun _ => True) (fun _ => Decodes) world' := by
  intro world'
  have hpos : 0 < (world.nextEvent session event).sequence := Nat.succ_pos _
  refine ⟨(h.apply_appendEvent sessionId hpos).apply_upsertSession _, Nat.le_succ _, _, rfl, rfl,
    .of_forall h ?_⟩
  intro write hmem store hdecodes
  simp only [storeCalls, List.filterMap_cons, List.filterMap_nil, List.mem_cons, List.not_mem_nil,
    or_false] at hmem
  rcases hmem with rfl | rfl
  · exact hdecodes.apply_appendEvent _ hpos
  · exact hdecodes.apply_upsertSession _

theorem change {world world' : World SqliteStore C} (h : Decodes world.inner.store)
    (hchange : Change world world') :
    Decodes world'.inner.store ∧ world.Writes (fun _ => True) (fun _ => Decodes) world' := by
  cases hchange with
  | tick => exact ⟨h, .silent (Nat.le_succ _) (List.append_nil _).symm rfl rfl h⟩
  | request kind => exact ⟨h, .silent (Nat.le_refl _) rfl rfl rfl h⟩
  | edit => exact ⟨h, .silent (Nat.le_refl _) (List.append_nil _).symm rfl rfl h⟩
  | append hlookup event => exact h.append _ _ event
  | @persist sessionId session hlookup =>
      have hstore := h.apply_upsertSession session.stored
      exact ⟨hstore, .single (Nat.le_refl _) rfl rfl h hstore⟩
  | subscribe hmem =>
      rw [final, Manager.exec_subscribe hmem]
      exact ⟨h, .silent (Nat.le_refl _) rfl rfl rfl h⟩
  | @archive sessionId session hlookup archived =>
      rcases Manager.final_archiveRecovered world sessionId session archived with
        hfinal | ⟨stored, -, hfinal⟩
      · rw [hfinal]
        exact ⟨h, .silent (Nat.le_refl _) (List.append_nil _).symm rfl rfl h⟩
      · rw [hfinal]
        have hstore := h.apply_upsertSession
          { stored with metadata := archiveMetadata stored.metadata archived }
        exact ⟨hstore, .single (Nat.le_refl _) rfl rfl h hstore⟩
  | @enroll build hfresh =>
      rw [Manager.final_enrollSession]
      have hregister : Decodes (world.registered build).inner.store := h.apply_upsertSession _
      obtain ⟨hafter, hwrites⟩ := hregister.append (world.env.uuid world.ticks)
        (build (world.env.uuid world.ticks)) (.status ⟨.idle⟩)
      refine ⟨hafter, .trans (fun _ _ _ _ hstore => hstore) ?_ hwrites⟩
      exact .single (Nat.le_succ _) rfl rfl h hregister

end Decodes

variable [AcpSession C]

/-- **Rows decode** in every life of the host. -/
theorem decodesInvariant (env : Env) :
    HostInvariant env (fun _ (_ : Boot C) => True) (fun _ => True)
      (fun world => Decodes world.inner.store) fun _ => Decodes where
  mono _ _ _ _ h := h
  empty eventLimit id row hrow := by
    rw [SqliteStore.rows, SqliteStore.empty, AList.lookup_empty] at hrow
    contradiction
  boot ticks store boot _ h := by
    have hrecovers := (recoversRows_new (C := C) env ticks boot.adapters
      (store.reopen boot.eventLimit) boot.journalLimit).recovers
    rw [Boot.start, hrecovers.store]
    exact h
  agents world world' hmove h := by
    rw [hmove.store]
    exact h
  change _ _ hchange h := Decodes.change h hchange
  store _ h := h

/-- **Journal entries survive persistence**: each decodes to what `reread` says, which is
the entry itself if it holds nothing ambiguous; only agents can bring what does not; and
of the rows that any life of the host leaves, recovery drops none. -/
theorem entries_survive {env : Env} {host : Host C} (hreach : (hostSystem env).Reachable host) :
    (∀ event : SequencedEvent, ofJson (toJson event) = some event.reread ∧
      (event.reread = event ↔ event.event.ReadsBack)) ∧
    (∀ (world : World SqliteStore C) (call : Call C), call.ReadsBack →
      world.Appends SessionEvent.ReadsBack (call.run.final world)) ∧
    ∀ id, ∃ events : List SequencedEvent,
      host.store.rows id = events.map SequencedEvent.stored ∧
      ∀ journalLimit, recoveredJournal host.store id journalLimit =
        (events.map SequencedEvent.reread).take journalLimit := by
  refine ⟨fun event => ⟨event.ofJson_reread, event.reread_eq_iff⟩,
    fun world call h => Call.appends_run h world, fun id => ?_⟩
  have hholds := (decodesInvariant env).holds (Host.reachUnder_of_reachable hreach)
  have hdecodes : Decodes host.store := by
    cases host with
    | up world => exact hholds
    | down ticks store => exact hholds
  obtain ⟨events, hrows, hpositive⟩ := hdecodes.rows_eq id
  exact ⟨events, hrows, recoveredJournal_eq hrows hpositive⟩

/-- The one entry of a new session is recovered as it was. -/
theorem entries_survive_created :
    ∃ events : List SequencedEvent,
      sampleDatabase.rows "uuu" = events.map SequencedEvent.stored ∧ events.length = 1 ∧
      recoveredJournal sampleDatabase "uuu" 1 = (events.map SequencedEvent.reread).take 1 := by
  have hup : (hostSystem sampleEnv).Reachable (.up sampleManager) :=
    .step (a := .boot (sampleBoot true)) (.init ⟨0, rfl⟩) trivial rfl
  have hcreated : (hostSystem sampleEnv).Reachable
      (.up (sampleManager.after (.createSession sampleRequest))) :=
    .step (a := .turn (.operation (.createSession sampleRequest))) hup trivial ⟨_, rfl, rfl⟩
  obtain ⟨-, -, hrows⟩ := entries_survive hcreated
  obtain ⟨events, hevents, hrecovered⟩ := hrows "uuu"
  refine ⟨events, hevents, ?_, hrecovered 1⟩
  have hlength : (sampleDatabase.rows "uuu").length = 1 := by decide +kernel
  rw [← hlength, show sampleDatabase.rows "uuu" = _ from hevents, List.length_map]

/-- A tool call whose raw input is `null`. -/
def sampleNullInput : AgentEvent :=
  .toolCall {
    toolCallId := "t1"
    title := "Edit"
    kind := none
    status := .pending
    detail := none
    content := []
    locations := []
    rawInput := some .null
    rawOutput := none }

/-- **A raw value of `null`** does not survive: the entry reads back without it. -/
theorem null_reads_back_absent :
    ∃ event : SequencedEvent,
      .appended "uuu" event ∈ ((Manager.applyAgentEvent "uuu" sampleNullInput).final
        (sampleManager.after (.createSession sampleRequest))).effects ∧
      ofJson (toJson event) ≠ some event := by
  have hmem : "uuu" ∈ (sampleManager.after (.createSession sampleRequest)).inner.sessions :=
    AList.mem_keys.mpr (by decide)
  obtain ⟨session, hlookup⟩ := exists_lookup_of_mem hmem
  generalize sampleManager.after (.createSession sampleRequest) = world at hlookup ⊢
  refine ⟨world.nextEvent session (.toolCall {
    id := "t1"
    title := "Edit"
    kind := none
    status := .pending
    detail := none
    content := []
    locations := []
    rawInput := some .null
    rawOutput := none }), ?_, fun hread => ?_⟩
  · rw [sampleNullInput, Manager.applyAgentEvent, List.mapM_nil, pure_bind, final_discard, final,
      Manager.exec_append hlookup]
    exact List.mem_append_right _ List.mem_cons_self
  · rw [SequencedEvent.ofJson_reread] at hread
    have hreads := (SequencedEvent.reread_eq_iff _).mp (Option.some.inj hread)
    exact hreads.1 rfl

end Slight
