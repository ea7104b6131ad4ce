import Slight.Session.Partition

/-!
# Slight.Session.Generations

The two generations of metadata a row of `sessions` can hold: the record that the
manager writes, and the bare summary that the record's documentation promises to
read.  The record nests its summary in a field without a default, so a bare
summary is metadata that does not decode.
-/

namespace Slight

open Support Program

variable {S C : Type}

inductive Generation where
  | persisted (origin : SessionOrigin) (agentSessionId : Option String)
      (resolvedWorkingDirectory : String)
  | bare

/-- The metadata of a summary. -/
def Generation.metadata (generation : Generation) (summary : SessionSummary) : Json :=
  match generation with
  | persisted origin agentSessionId resolvedWorkingDirectory =>
      toJson ({ summary, origin, agentSessionId, resolvedWorkingDirectory } : PersistedSession)
  | bare => toJson summary

/-- A bare summary has no field that a record cannot do without. -/
theorem ofJson_bare (summary : SessionSummary) :
    (ofJson (Generation.bare.metadata summary) : Option PersistedSession) = none := by
  show ((toJson summary).asObject.bind ofFields : Option PersistedSession) = none
  rw [show (toJson summary).asObject = some (toFields summary) from rfl, Option.bind_some]
  have hsummary : (Fields.required (toFields summary) "summary" : Option SessionSummary) = none := by
    simp [toFields, Fields.required, List.lookup]
  simp [ofFields, hsummary]

/-- What a session has to be recovered with. -/
structure SessionSummary.SameSession (summary recovered : SessionSummary) : Prop where
  id : recovered.id = summary.id
  title : recovered.title = summary.title
  agent : recovered.agent = summary.agent
  model : recovered.model = summary.model
  effort : recovered.effort = summary.effort
  workingDirectoryLabel : recovered.workingDirectoryLabel = summary.workingDirectoryLabel
  createdAtMs : recovered.createdAtMs = summary.createdAtMs
  archived : recovered.archived = summary.archived

/-- The session of the summary is there, and not as an unreadable one. -/
def World.Recovers (world : World S C) (summary : SessionSummary) : Prop :=
  ∃ recovered, world.summary summary.id = some recovered ∧ summary.SameSession recovered ∧
    ¬ recovered.recovery.BlamesMetadata

variable [SessionStore S] [LawfulSessionStore S] [AcpSession C]

/-- **Metadata of either generation**: a start of the host recovers the session exactly if
its metadata is a record, whatever the agents do; the bare summary, which the record is
documented to read, becomes an unreadable session. -/
theorem recovers_iff_persisted (env : Env) (ticks : Nat) (adapters : AdapterRegistry C)
    {store : S} (journalLimit : Nat) (hkeyed : WellKeyed store) (summary : SessionSummary)
    (generation : Generation) {row : StoredSession}
    (hrow : (LawfulSessionStore.sessions store).lookup summary.id = some row)
    (hmetadata : row.metadata = generation.metadata summary) :
    (SessionManager.new env ticks adapters store journalLimit : World S C).Recovers summary ↔
      generation ≠ .bare := by
  have hmem : summary.id ∈ LawfulSessionStore.sessions store :=
    mem_of_lookup hrow
  cases generation with
  | bare =>
      have hread : row.record = none := by
        rw [StoredSession.record, hmetadata]
        exact ofJson_bare summary
      refine iff_of_false ?_ (not_not.mpr rfl)
      rintro ⟨recovered, hsummary, -, hreadable⟩
      rw [World.summary] at hsummary
      cases hlive : (SessionManager.new env ticks adapters store
          journalLimit).inner.sessions.lookup summary.id with
      | some session =>
          obtain ⟨row', hrow', hrehydrates, -⟩ := lookup_sessions_new hkeyed hlive
          obtain ⟨record, hrecord, -⟩ := hrehydrates.record
          rw [hrow] at hrow'
          rw [← Option.some.inj hrow', hread] at hrecord
          cases hrecord
      | none =>
          rw [hlive] at hsummary
          obtain ⟨session, hlost, rfl⟩ := Option.map_eq_some_iff.mp hsummary
          exact hreadable ((blamesMetadata_new hlost hrow).mpr hread)
  | persisted origin agentSessionId resolvedWorkingDirectory =>
      have hread : row.record =
          some { summary, origin, agentSessionId, resolvedWorkingDirectory } := by
        rw [StoredSession.record, hmetadata]
        exact ofJson_toJson _
      refine iff_of_true ?_ (by simp)
      rw [World.Recovers, World.summary]
      cases hlive : (SessionManager.new env ticks adapters store
          journalLimit).inner.sessions.lookup summary.id with
      | some session =>
          obtain ⟨row', hrow', hrehydrates, -⟩ := lookup_sessions_new hkeyed hlive
          obtain ⟨record, hrecord, hsame⟩ := hrehydrates.record
          rw [hrow] at hrow'
          rw [← Option.some.inj hrow', hread] at hrecord
          rw [← Option.some.inj hrecord] at hsame
          refine ⟨session.summary, rfl, ?_, ?_⟩
          · rw [hsame]
            exact ⟨rfl, rfl, rfl, rfl, rfl, rfl, rfl, rfl⟩
          · rw [hsame]
            exact id
      | none =>
          have hlost : summary.id ∈ (SessionManager.new env ticks adapters store journalLimit :
              World S C).inner.recovered := by
            refine (mem_new hkeyed hmem).resolve_left fun hmem => ?_
            rw [← AList.lookup_isSome, hlive] at hmem
            cases hmem
          obtain ⟨session, hlookup⟩ := exists_lookup_of_mem hlost
          obtain ⟨row', hrow', hretains⟩ := lookup_recovered_new hlookup
          rw [hrow] at hrow'
          rw [← Option.some.inj hrow'] at hretains
          refine ⟨session.summary, by rw [hlookup]; rfl, ?_, fun hblames => ?_⟩
          · rw [hretains.record _ hread]
            exact ⟨rfl, rfl, rfl, rfl, rfl, rfl, rfl, rfl⟩
          · rw [blamesMetadata_new hlookup hrow, hread] at hblames
            cases hblames

/-! ## one row -/

/-- A row with the sample summary. -/
def sampleGeneration (generation : Generation) : StoredSession where
  sessionId := "s1"
  metadata := generation.metadata sampleSummary
  lastSequence := 6
  createdAtMs := 0
  updatedAtMs := 0

theorem wellKeyed_sampleGeneration (generation : Generation) :
    WellKeyed ((SqliteStore.empty 0).upsertSession (sampleGeneration generation)) := by
  intro id row hlookup record hread
  rcases lookup_insert_eq_some hlookup with ⟨-, rfl⟩ | ⟨-, hold⟩
  · cases generation with
    | bare =>
        exact absurd ((ofJson_bare sampleSummary).symm.trans hread) (Option.some_ne_none _).symm
    | persisted origin agentSessionId resolvedWorkingDirectory =>
        obtain rfl := Option.some.inj ((ofJson_toJson _).symm.trans hread)
        rfl
  · cases hold

/-- A record is recovered, though its agent is not registered. -/
theorem recovers_iff_persisted_record :
    (SessionManager.new sampleEnv 0 []
      ((SqliteStore.empty 0).upsertSession (sampleGeneration (.persisted .new none ""))) 1 :
        World SqliteStore ScriptedAgent).Recovers sampleSummary :=
  (recovers_iff_persisted sampleEnv 0 [] 1 (wellKeyed_sampleGeneration (.persisted .new none ""))
    sampleSummary (.persisted .new none "") (AList.lookup_insert _) rfl).mpr (by simp)

/-- **A bare summary** is recovered as an unreadable session, under another title. -/
theorem bare_summary_unreadable :
    ∃ world : World SqliteStore ScriptedAgent,
      world = SessionManager.new sampleEnv 0 [ScriptedAgent.adapter true]
        ((SqliteStore.empty 0).upsertSession (sampleGeneration .bare)) 1 ∧
      (world.summary "s1").map (·.title) = some "Unreadable session" ∧
      ¬ world.Recovers sampleSummary := by
  refine ⟨_, rfl, by decide +kernel, fun h => ?_⟩
  obtain ⟨recovered, hsummary, hsame, -⟩ := h
  have htitle : (some recovered).map (·.title) = some "Unreadable session" := by
    rw [← hsummary]
    decide +kernel
  exact absurd (hsame.title.symm.trans (Option.some.inj htitle)) (by decide)

end Slight
