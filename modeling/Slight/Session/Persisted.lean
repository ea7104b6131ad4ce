import Slight.Session.Codec
import Slight.Store

/-!
# Slight.Session.Persisted

The durable record of one product session, the JSON in a stored row's
`metadata`, and the one edit the manager makes to it in place.

The manager reads the rows of its store with derived implementations of serde
(`StoredReader`).  They read what it has written, and other documents too: a
struct also from an array, a unit variant also from an object.  What is about
any database at all is therefore stated for any reader.
-/

namespace Slight

/-- How a product session was originally bound to its native agent session. -/
inductive SessionOrigin where
  | new
  | load
  | resume
  deriving DecidableEq

def SessionOrigin.asStr : SessionOrigin → String
  | new => "new"
  | load => "loaded"
  | resume => "resumed"

instance : Serde SessionOrigin where
  toJson
    | .new => .str "new"
    | .load => .str "load"
    | .resume => .str "resume"
  ofJson := ofVariants [("new", .new), ("load", .load), ("resume", .resume)]

instance : LawfulSerde SessionOrigin :=
  ⟨fun origin => by cases origin <;> rfl, fun origin => by cases origin <;> exact Json.noConfusion⟩

structure PersistedSession where
  summary : SessionSummary
  origin : SessionOrigin
  agentSessionId : Option String
  resolvedWorkingDirectory : String

/-- All fields but the summary are defaulted. -/
instance : Record PersistedSession where
  toFields p := [("summary", toJson p.summary), ("origin", toJson p.origin),
    ("agent_session_id", toJson p.agentSessionId),
    ("resolved_working_directory", toJson p.resolvedWorkingDirectory)]
  ofFields fields := do
    let summary ← fields.required "summary"
    let origin ← fields.defaulted "origin" .new
    let agentSessionId ← fields.optional "agent_session_id"
    let resolvedWorkingDirectory ← fields.defaulted "resolved_working_directory" ""
    pure { summary, origin, agentSessionId, resolvedWorkingDirectory }

instance : LawfulRecord PersistedSession :=
  ⟨fun _ => by simp [toFields, ofFields], fun _ _ => by simp [tagged, toFields, ofFields]⟩

/-! ## reading rows -/

/-- What the derived `Deserialize` of the two stored types read. -/
class StoredReader where
  session : Json → Option PersistedSession
  event : Json → Option SequencedEvent

/-- The reader of what the manager itself has written. -/
instance : StoredReader := ⟨ofJson, ofJson⟩

section

variable [StoredReader]

/-- The record a row holds, if it decodes. -/
def StoredSession.record (stored : StoredSession) : Option PersistedSession :=
  StoredReader.session stored.metadata

/-- The event a row holds, if it decodes. -/
def StoredEvent.sequenced (stored : StoredEvent) : Option SequencedEvent :=
  StoredReader.event stored.event

end

/-! ## the archived flag of a stored record -/

/-- `Map::insert`. -/
def Fields.insert (fields : Fields) (key : String) (value : Json) : Fields :=
  if (fields.lookup key).isSome then
    fields.map fun field => if field.1 = key then (key, value) else field
  else fields ++ [(key, value)]

theorem Fields.lookup_insert_ne {fields : Fields} {key key' : String} (h : key' ≠ key)
    (value : Json) : (fields.insert key value).lookup key' = fields.lookup key' := by
  unfold Fields.insert
  split
  · next hsome =>
    clear hsome
    induction fields with
    | nil => rfl
    | cons field fields ih =>
        obtain ⟨name, old⟩ := field
        rw [List.map_cons]
        by_cases hname : name = key
        · subst hname
          rw [if_pos rfl, Fields.lookup_cons_ne _ h, Fields.lookup_cons_ne _ h]
          exact ih
        · rw [if_neg hname, List.lookup_cons, List.lookup_cons]
          cases key' == name with
          | true => rfl
          | false => exact ih
  · rw [List.lookup_append, Fields.lookup_cons_ne _ h, List.lookup_nil, Option.or_none]

theorem Fields.lookup_insert_self (fields : Fields) (key : String) (value : Json) :
    (fields.insert key value).lookup key = some value := by
  unfold Fields.insert
  split
  · next hsome =>
      induction fields with
      | nil => rw [List.lookup_nil] at hsome; contradiction
      | cons field fields ih =>
          obtain ⟨name, old⟩ := field
          rw [List.map_cons]
          by_cases hname : name = key
          · subst hname
            rw [if_pos rfl, List.lookup_cons_self]
          · have hne : key ≠ name := fun h => hname h.symm
            rw [if_neg hname, Fields.lookup_cons_ne _ hne]
            rw [Fields.lookup_cons_ne _ hne] at hsome
            exact ih hsome
  · next hnone =>
      rw [List.lookup_append, Option.not_isSome_iff_eq_none.mp hnone, List.lookup_cons_self,
        Option.none_or]

/-- Sets `summary.archived`, where the metadata has a summary object. -/
def archiveMetadata (metadata : Json) (archived : Bool) : Json :=
  match metadata with
  | .obj fields =>
      match fields.lookup "summary" with
      | some (.obj summary) =>
          .obj (Fields.insert fields "summary"
            (.obj (Fields.insert summary "archived" (.bool archived))))
      | _ => metadata
  | _ => metadata

theorem Fields.required_insert_ne {α : Type} [Serde α] (fields : Fields) {key key' : String}
    (h : key' ≠ key) (value : Json) :
    ((fields.insert key value).required key' : Option α) = fields.required key' := by
  rw [Fields.required, Fields.lookup_insert_ne h, Fields.required]

theorem Fields.defaulted_insert_self {α : Type} [Serde α] (fields : Fields) (key : String)
    (value : Json) (dflt : α) : (fields.insert key value).defaulted key dflt = ofJson value := by
  rw [Fields.defaulted, Fields.lookup_insert_self]

/-- Two objects that differ in `archived` only are summaries that do. -/
theorem ofFields_archived {fields fields' : Fields} {archived archived' : Bool}
    (hsame : ∀ key, key ≠ "archived" → fields.lookup key = fields'.lookup key)
    (h : fields.defaulted "archived" false = some archived)
    (h' : fields'.defaulted "archived" false = some archived') :
    (ofFields fields : Option SessionSummary) =
      (ofFields fields').map fun summary : SessionSummary => { summary with archived } := by
  have hbind : ∀ {α β γ : Type} {x y : Option α} {f : α → Option γ} {g : α → Option β}
      {h : β → γ}, x = y → (∀ a, f a = (g a).map h) → x.bind f = (y.bind g).map h := by
    intro α β γ x y f g h hxy hfg
    rw [hxy, Option.map_bind]
    exact congrArg (Option.bind y) (funext hfg)
  have hrequired : ∀ {α : Type} [Serde α] {key : String}, key ≠ "archived" →
      (fields.required key : Option α) = fields'.required key := by
    intro α _ key hkey
    rw [Fields.required, hsame key hkey, Fields.required]
  have hdefaulted : ∀ {α : Type} [Serde α] {key : String} (dflt : α), key ≠ "archived" →
      fields.defaulted key dflt = fields'.defaulted key dflt := by
    intro α _ key dflt hkey
    rw [Fields.defaulted, hsame key hkey, Fields.defaulted]
  refine hbind (hrequired (by decide)) fun id => ?_
  refine hbind (hrequired (by decide)) fun title => ?_
  refine hbind (hrequired (by decide)) fun agent => ?_
  refine hbind (hdefaulted none (by decide)) fun model => ?_
  refine hbind (hdefaulted none (by decide)) fun effort => ?_
  refine hbind (hrequired (by decide)) fun workingDirectoryLabel => ?_
  refine hbind (hdefaulted none (by decide)) fun gitBranch => ?_
  refine hbind (hrequired (by decide)) fun status => ?_
  refine hbind (hrequired (by decide)) fun createdAtMs => ?_
  refine hbind (hrequired (by decide)) fun lastActivityAtMs => ?_
  refine hbind (hrequired (by decide)) fun lastSequence => ?_
  refine hbind (hdefaulted _ (by decide)) fun recovery => ?_
  show Option.bind _ _ = (Option.bind _ _).map _
  rw [h, h']
  rfl

/-- Fields of a summary that reads. -/
theorem read_of_ofFields {fields : Fields} {summary : SessionSummary}
    (h : ofFields fields = some summary) :
    fields.required "id" = some summary.id ∧ fields.required "agent" = some summary.agent ∧
      fields.defaulted "archived" false = some summary.archived := by
  obtain ⟨id, hid, h⟩ := Option.bind_eq_some_iff.mp h
  obtain ⟨title, -, h⟩ := Option.bind_eq_some_iff.mp h
  obtain ⟨agent, hagent, h⟩ := Option.bind_eq_some_iff.mp h
  obtain ⟨model, -, h⟩ := Option.bind_eq_some_iff.mp h
  obtain ⟨effort, -, h⟩ := Option.bind_eq_some_iff.mp h
  obtain ⟨workingDirectoryLabel, -, h⟩ := Option.bind_eq_some_iff.mp h
  obtain ⟨gitBranch, -, h⟩ := Option.bind_eq_some_iff.mp h
  obtain ⟨status, -, h⟩ := Option.bind_eq_some_iff.mp h
  obtain ⟨createdAtMs, -, h⟩ := Option.bind_eq_some_iff.mp h
  obtain ⟨lastActivityAtMs, -, h⟩ := Option.bind_eq_some_iff.mp h
  obtain ⟨lastSequence, -, h⟩ := Option.bind_eq_some_iff.mp h
  obtain ⟨recovery, -, h⟩ := Option.bind_eq_some_iff.mp h
  obtain ⟨archived, harchived, hsummary⟩ := Option.bind_eq_some_iff.mp h
  obtain rfl := Option.some.inj hsummary
  exact ⟨hid, hagent, harchived⟩

/-- Metadata that reads, the summary in it, and the other fields. -/
theorem summary_of_ofJson {metadata : Json} {record : PersistedSession}
    (h : ofJson metadata = some record) :
    ∃ fields summary : Fields, metadata = .obj fields ∧ fields.lookup "summary" = some (.obj summary) ∧
      ofFields summary = some record.summary ∧
      fields.defaulted "origin" .new = some record.origin ∧
      fields.optional "agent_session_id" = some record.agentSessionId ∧
      fields.defaulted "resolved_working_directory" "" = some record.resolvedWorkingDirectory := by
  obtain ⟨fields, hfields, hrecord⟩ := Option.bind_eq_some_iff.mp h
  obtain ⟨summary, hsummary, hrecord⟩ := Option.bind_eq_some_iff.mp hrecord
  obtain ⟨origin, horigin, hrecord⟩ := Option.bind_eq_some_iff.mp hrecord
  obtain ⟨agentSessionId, hagent, hrecord⟩ := Option.bind_eq_some_iff.mp hrecord
  obtain ⟨directory, hdirectory, hrecord⟩ := Option.bind_eq_some_iff.mp hrecord
  obtain rfl := Option.some.inj hrecord
  obtain ⟨json, hjson, hread⟩ := Option.bind_eq_some_iff.mp hsummary
  obtain ⟨summaryFields, hobject, hread⟩ := Option.bind_eq_some_iff.mp hread
  have hobj : ∀ {value : Json} {inner : Fields}, value.asObject = some inner →
      value = .obj inner := by
    intro value inner hvalue
    cases value with
    | obj raw => rw [Option.some.inj hvalue]
    | _ => contradiction
  rw [hobj hobject] at hjson
  exact ⟨fields, summaryFields, hobj hfields, hjson, hread, horigin, hagent, hdirectory⟩

/-- What an archived record reads as. -/
theorem archived_archiveMetadata {metadata : Json} {archived : Bool} {record : PersistedSession}
    (h : ofJson (archiveMetadata metadata archived) = some record) :
    record.summary.archived = archived := by
  obtain ⟨fields, summary, hobject, hlookup, hread, -⟩ := summary_of_ofJson h
  obtain ⟨-, -, hflag⟩ := read_of_ofFields hread
  unfold archiveMetadata at hobject
  split at hobject
  · next raw =>
      split at hobject
      · obtain rfl := Json.obj.inj hobject
        rw [Fields.lookup_insert_self] at hlookup
        obtain rfl := Json.obj.inj (Option.some.inj hlookup)
        rw [Fields.defaulted_insert_self] at hflag
        exact (Option.some.inj hflag).symm
      · next hnone =>
          obtain rfl := Json.obj.inj hobject
          exact absurd hlookup (hnone summary)
  · next hnone => exact absurd hobject (hnone fields)

/-- A record that reads still does when it is archived. -/
theorem ofJson_archiveMetadata {metadata : Json} {record : PersistedSession}
    (h : ofJson metadata = some record) (archived : Bool) :
    ofJson (archiveMetadata metadata archived) =
      some { record with summary := { record.summary with archived } } := by
  obtain ⟨fields, summary, rfl, hlookup, hread, horigin, hagent, hdirectory⟩ :=
    summary_of_ofJson h
  have hsame : ∀ key, key ≠ "archived" →
      (Fields.insert summary "archived" (.bool archived)).lookup key = summary.lookup key :=
    fun key hkey => Fields.lookup_insert_ne hkey _
  have hsummary : (ofFields (Fields.insert summary "archived" (.bool archived)) :
      Option SessionSummary) = some { record.summary with archived } := by
    have hset : (Fields.insert summary "archived" (.bool archived)).defaulted "archived" false =
        some archived := Fields.defaulted_insert_self _ _ _ _
    rw [ofFields_archived hsame hset (read_of_ofFields hread).2.2, hread]
    rfl
  have hother : ∀ {key : String} (value : Json), key ≠ "summary" →
      (Fields.insert fields "summary" value).lookup key = fields.lookup key :=
    fun value hkey => Fields.lookup_insert_ne hkey value
  have harchived : archiveMetadata (.obj fields) archived =
      .obj (Fields.insert fields "summary"
        (.obj (Fields.insert summary "archived" (.bool archived)))) := by
    rw [archiveMetadata, hlookup]
  rw [harchived]
  refine Option.bind_eq_some_iff.mpr ⟨_, rfl, ?_⟩
  refine Option.bind_eq_some_iff.mpr ⟨{ record.summary with archived }, ?_, ?_⟩
  · rw [Fields.required, Fields.lookup_insert_self]
    exact hsummary
  refine Option.bind_eq_some_iff.mpr ⟨record.origin, ?_, ?_⟩
  · rw [Fields.defaulted, hother _ (by decide), ← Fields.defaulted, horigin]
  refine Option.bind_eq_some_iff.mpr ⟨record.agentSessionId, ?_, ?_⟩
  · rw [Fields.optional, Fields.defaulted, hother _ (by decide), ← Fields.defaulted]
    exact hagent
  refine Option.bind_eq_some_iff.mpr ⟨record.resolvedWorkingDirectory, ?_, rfl⟩
  rw [Fields.defaulted, hother _ (by decide), ← Fields.defaulted, hdirectory]

/-- The id in the summary of some metadata. -/
def metadataId (metadata : Json) : Option SessionId := do
  let fields ← metadata.asObject
  let summary ← (← fields.lookup "summary").asObject
  summary.required "id"

theorem metadataId_obj (fields : Fields) : metadataId (.obj fields) =
    ((fields.lookup "summary").bind Json.asObject).bind fun summary => summary.required "id" := by
  cases h : fields.lookup "summary" with
  | none => simp [metadataId, Json.asObject, h]
  | some summary => simp [metadataId, Json.asObject, h]

/-- Archiving leaves the id alone. -/
theorem metadataId_archiveMetadata (metadata : Json) (archived : Bool) :
    metadataId (archiveMetadata metadata archived) = metadataId metadata := by
  cases metadata with
  | obj fields =>
      unfold archiveMetadata
      dsimp only
      split
      · next summary hsummary =>
          rw [metadataId_obj, metadataId_obj, Fields.lookup_insert_self, hsummary]
          exact Fields.required_insert_ne summary (by decide) _
      · rfl
  | _ => rfl

/-- A record that reads has the id its metadata names. -/
theorem metadataId_of_ofJson {metadata : Json} {record : PersistedSession}
    (h : ofJson metadata = some record) : metadataId metadata = some record.summary.id := by
  obtain ⟨fields, summary, rfl, hlookup, hread, -⟩ := summary_of_ofJson h
  rw [metadataId_obj, hlookup]
  exact (read_of_ofFields hread).1

theorem metadataId_toJson (record : PersistedSession) :
    metadataId (toJson record) = some record.summary.id :=
  metadataId_of_ofJson (ofJson_toJson record)

end Slight
