import Mathlib

/-!
# Slight.Json

JSON values as `serde_json::Value` holds them, and the reading and writing
conventions of serde's derived implementations on the host:

* a struct is an object; a required field must be present, an `Option` field
  may be absent or `null`, a `#[serde(default)]` field may be absent;
* unknown fields are ignored;
* `u64`, `i64`, `u32` and `i32` read integer literals in their range, `f64`
  reads any number.

Numbers are exact: `int` is an integer literal, `float` any other number.
Sequence numbers and timestamps are unbounded here; the host's 64-bit counters
stay far below their range.

The readers take what the writers write, and what a client or an agent sends
(objects).  serde's own take more: a struct also from an array, a unit variant
also from an object with its name.  Where a document can be anything, its reader
is a parameter.
-/

namespace Slight

/-- A JSON value. -/
inductive Json where
  | null
  | bool (b : Bool)
  | int (n : Int)
  | float (q : Rat)
  | str (s : String)
  | arr (xs : List Json)
  | obj (fields : List (String × Json))

/-- The fields of a JSON object. -/
abbrev Fields := List (String × Json)

namespace Json

/-- The fields of an object; anything else is not a struct. -/
def asObject : Json → Option Fields
  | obj fields => some fields
  | _ => none

end Json

/-- Values with a derived `Serialize` and `Deserialize`. -/
class Serde (α : Type) where
  toJson : α → Json
  ofJson : Json → Option α

export Serde (toJson ofJson)

/-! ## primitive values -/

instance : Serde Json := ⟨id, some⟩

instance : Serde Bool where
  toJson := .bool
  ofJson
    | .bool b => some b
    | _ => none

instance : Serde String where
  toJson := .str
  ofJson
    | .str s => some s
    | _ => none

/-- `u64` and `usize`. -/
instance : Serde Nat where
  toJson n := .int n
  ofJson
    | .int n => if 0 ≤ n then some n.toNat else none
    | _ => none

/-- `i64`. -/
instance : Serde Int where
  toJson := .int
  ofJson
    | .int n => some n
    | _ => none

instance : Serde UInt32 where
  toJson n := .int n.toNat
  ofJson
    | .int n => if 0 ≤ n ∧ n < 2 ^ 32 then some (UInt32.ofNat n.toNat) else none
    | _ => none

instance : Serde Int32 where
  toJson n := .int n.toInt
  ofJson
    | .int n => if -2 ^ 31 ≤ n ∧ n < 2 ^ 31 then some (Int32.ofInt n) else none
    | _ => none

/-- `f64`, as an exact number. -/
instance : Serde Rat where
  toJson := .float
  ofJson
    | .float q => some q
    | .int n => some n
    | _ => none

/-- `null` is `None`, anything else is the value. -/
instance {α : Type} [Serde α] : Serde (Option α) where
  toJson
    | none => .null
    | some a => toJson a
  ofJson
    | .null => some none
    | j => (ofJson j).map some

instance {α : Type} [Serde α] : Serde (List α) where
  toJson xs := .arr (xs.map toJson)
  ofJson
    | .arr xs => xs.mapM ofJson
    | _ => none

/-! ## struct fields -/

namespace Fields

/-- A required field. -/
def required {α : Type} [Serde α] (fields : Fields) (key : String) : Option α :=
  (fields.lookup key).bind ofJson

/-- A field that falls back to `dflt` when it is absent. -/
def defaulted {α : Type} [Serde α] (fields : Fields) (key : String) (dflt : α) : Option α :=
  match fields.lookup key with
  | none => some dflt
  | some j => ofJson j

/-- An `Option` field: absent is `None`. -/
def optional {α : Type} [Serde α] (fields : Fields) (key : String) : Option (Option α) :=
  fields.defaulted key none

end Fields

/-- A field written with `skip_serializing_if = "Option::is_none"`, in front of
the `rest`. -/
def skipNone {α : Type} [Serde α] (key : String) (a : Option α) (rest : Fields) : Fields :=
  match a with
  | none => rest
  | some a => (key, toJson a) :: rest

/-- A field written with `skip_serializing_if = "Vec::is_empty"`, in front of
the `rest`. -/
def skipEmpty {α : Type} [Serde α] (key : String) (xs : List α) (rest : Fields) : Fields :=
  match xs with
  | [] => rest
  | xs => (key, toJson xs) :: rest

/-- A unit variant under `rename_all = "snake_case"`: its name as a string. -/
def ofVariants {α : Type} (variants : List (String × α)) : Json → Option α
  | .str s => variants.lookup s
  | _ => none

/-! ## structs -/

/-- A struct, as its fields. -/
class Record (α : Type) where
  toFields : α → Fields
  ofFields : Fields → Option α

export Record (toFields ofFields)

instance {α : Type} [Record α] : Serde α where
  toJson a := .obj (toFields a)
  ofJson j := j.asObject.bind ofFields

/-- An internally tagged variant: the tag is a field next to the struct's own. -/
def tagged {α : Type} [Record α] (tag variant : String) (a : α) : Fields :=
  (tag, .str variant) :: toFields a

/-- The variant an internally tagged object names. -/
def Fields.tag (fields : Fields) (tag : String) : Option String :=
  fields.required tag

/-! ## reading back what was written -/

/-- Reading back what was written gives the value, and no value is written as
`null`, so that an `Option` of it reads back too. -/
class LawfulSerde (α : Type) [Serde α] : Prop where
  ofJson_toJson : ∀ a : α, ofJson (toJson a) = some a
  toJson_ne_null : ∀ a : α, toJson a ≠ .null

export LawfulSerde (ofJson_toJson toJson_ne_null)

attribute [simp] ofJson_toJson toJson_ne_null

/-- A struct reads back, also when a tag stands in front of its fields. -/
class LawfulRecord (α : Type) [Record α] : Prop where
  ofFields_toFields : ∀ a : α, ofFields (toFields a) = some a
  ofFields_tagged : ∀ (variant : String) (a : α), ofFields (tagged "type" variant a) = some a

export LawfulRecord (ofFields_toFields ofFields_tagged)

attribute [simp] ofFields_toFields ofFields_tagged

instance : LawfulSerde Bool := ⟨fun _ => rfl, fun _ => Json.noConfusion⟩

instance : LawfulSerde String := ⟨fun _ => rfl, fun _ => Json.noConfusion⟩

instance : LawfulSerde Nat := ⟨fun n => by simp [ofJson, toJson], fun _ => Json.noConfusion⟩

instance : LawfulSerde Int := ⟨fun _ => rfl, fun _ => Json.noConfusion⟩

instance : LawfulSerde UInt32 where
  ofJson_toJson n := by
    have hlt : (n.toNat : Int) < 2 ^ 32 := by exact_mod_cast n.toNat_lt
    simp only [ofJson, toJson]
    rw [if_pos ⟨Int.natCast_nonneg _, hlt⟩, Int.toNat_natCast, UInt32.ofNat_toNat]
  toJson_ne_null _ := Json.noConfusion

instance : LawfulSerde Int32 where
  ofJson_toJson n := by
    simp only [ofJson, toJson]
    rw [if_pos ⟨n.le_toInt, n.toInt_lt⟩, Int32.ofInt_toInt]
  toJson_ne_null _ := Json.noConfusion

instance : LawfulSerde Rat := ⟨fun _ => rfl, fun _ => Json.noConfusion⟩

/-- A struct is read as its fields are. -/
theorem ofJson_toJson_record {α : Type} [Record α] (a : α) :
    (ofJson (toJson a) : Option α) = ofFields (toFields a) := rfl

instance {α : Type} [Record α] [LawfulRecord α] : LawfulSerde α where
  ofJson_toJson a := by rw [ofJson_toJson_record, ofFields_toFields]
  toJson_ne_null _ := Json.noConfusion

/-- An `Option` reads back when its value does, up to `f`: only `None` is written
as `null`. -/
theorem ofJson_option_of {α : Type} [Serde α] {f : α → α}
    (hread : ∀ a : α, ofJson (toJson a) = some (f a)) (hne : ∀ a : α, toJson a ≠ .null)
    (a : Option α) : ofJson (toJson a) = some (a.map f) := by
  cases a with
  | none => rfl
  | some a =>
      have hread := hread a
      change (match toJson a with
        | .null => some none
        | j => (ofJson j).map some) = some (some (f a))
      cases hj : toJson a with
      | null => exact absurd hj (hne a)
      | _ =>
          rw [hj] at hread
          simp [hread]

@[simp] theorem ofJson_option {α : Type} [Serde α] [LawfulSerde α] (a : Option α) :
    ofJson (toJson a) = some a := by
  have hread := ofJson_option_of (f := id) (fun a : α => ofJson_toJson a) toJson_ne_null a
  rwa [Option.map_id_fun, id_eq] at hread

/-- A list reads back when its elements do, up to `f`. -/
theorem ofJson_list_of {α : Type} [Serde α] {f : α → α}
    (hread : ∀ a : α, ofJson (toJson a) = some (f a)) (xs : List α) :
    ofJson (toJson xs) = some (xs.map f) := by
  change (xs.map toJson).mapM ofJson = some (xs.map f)
  induction xs with
  | nil => rfl
  | cons x xs ih => simp [List.mapM_cons, ih, hread]

instance {α : Type} [Serde α] [LawfulSerde α] : LawfulSerde (List α) where
  ofJson_toJson xs := by
    have hread := ofJson_list_of (f := id) (fun a : α => ofJson_toJson a) xs
    rwa [List.map_id_fun, id_eq] at hread
  toJson_ne_null _ := Json.noConfusion

/-! ### looking fields up -/

namespace Fields

section

variable {α β : Type} [Serde α] [Serde β] {key key' : String} (fields : Fields)

theorem lookup_cons_ne (h : key ≠ key') (j : Json) :
    List.lookup key ((key', j) :: fields) = fields.lookup key := by
  have hkey : (key == key') = false := by simpa using h
  simp [List.lookup, hkey]

@[simp] theorem required_cons_ne (h : key ≠ key') (j : Json) :
    (required ((key', j) :: fields) key : Option α) = fields.required key := by
  rw [required, lookup_cons_ne fields h, required]

@[simp] theorem defaulted_cons_ne (h : key ≠ key') (j : Json) (dflt : α) :
    defaulted ((key', j) :: fields) key dflt = fields.defaulted key dflt := by
  rw [defaulted, lookup_cons_ne fields h, defaulted]

@[simp] theorem optional_cons_ne (h : key ≠ key') (j : Json) :
    (optional ((key', j) :: fields) key : Option (Option α)) = fields.optional key :=
  defaulted_cons_ne fields h j none

theorem required_cons_of {a b : α} (h : ofJson (toJson a) = some b) :
    required ((key, toJson a) :: fields) key = some b := by
  simp [required, h]

@[simp] theorem required_cons_self [LawfulSerde α] (a : α) :
    required ((key, toJson a) :: fields) key = some a :=
  required_cons_of fields (ofJson_toJson a)

@[simp] theorem defaulted_cons_self [LawfulSerde α] (a dflt : α) :
    defaulted ((key, toJson a) :: fields) key dflt = some a := by
  simp [defaulted]

theorem optional_cons_of {a b : Option α} (h : ofJson (toJson a) = some b) :
    optional ((key, toJson a) :: fields) key = some b := by
  simp [optional, defaulted, h]

@[simp] theorem optional_cons_self [LawfulSerde α] (a : Option α) :
    optional ((key, toJson a) :: fields) key = some a :=
  optional_cons_of fields (ofJson_option a)

@[simp] theorem tag_cons_self (variant : String) :
    tag ((key, .str variant) :: fields) key = some variant :=
  required_cons_self fields variant

@[simp] theorem tag_cons_ne (h : key ≠ key') (j : Json) :
    tag ((key', j) :: fields) key = fields.tag key :=
  required_cons_ne fields h j

@[simp] theorem defaulted_nil (dflt : α) : defaulted [] key dflt = some dflt := by
  simp only [defaulted, List.lookup]

@[simp] theorem optional_nil : (optional [] key : Option (Option α)) = some none := by
  simp only [optional, defaulted, List.lookup]

/-! Fields that may be left out. -/

@[simp] theorem optional_skipNone_ne (h : key ≠ key') (b : Option β) :
    (optional (skipNone key' b fields) key : Option (Option α)) = fields.optional key := by
  cases b with
  | none => rfl
  | some b => exact optional_cons_ne fields h _

@[simp] theorem optional_skipEmpty_ne (h : key ≠ key') (bs : List β) :
    (optional (skipEmpty key' bs fields) key : Option (Option α)) = fields.optional key := by
  cases bs with
  | nil => rfl
  | cons b bs => exact optional_cons_ne fields h _

@[simp] theorem defaulted_skipEmpty_ne (h : key ≠ key') (bs : List β) (dflt : α) :
    defaulted (skipEmpty key' bs fields) key dflt = fields.defaulted key dflt := by
  cases bs with
  | nil => rfl
  | cons b bs => exact defaulted_cons_ne fields h _ dflt

@[simp] theorem defaulted_skipNone_ne (h : key ≠ key') (b : Option β) (dflt : α) :
    defaulted (skipNone key' b fields) key dflt = fields.defaulted key dflt := by
  cases b with
  | none => rfl
  | some b => exact defaulted_cons_ne fields h _ dflt

/-- A field left out when it is `None` reads back, if nothing after it has its
name. -/
@[simp] theorem optional_skipNone_self [LawfulSerde α] (a : Option α)
    (h : (fields.optional key : Option (Option α)) = some none) :
    optional (skipNone key a fields) key = some a := by
  cases a with
  | none => exact h
  | some a =>
      change optional ((key, toJson (some a)) :: fields) key = some (some a)
      exact optional_cons_self fields (some a)

/-- A field left out when it is empty reads back, if nothing after it has its
name. -/
@[simp] theorem defaulted_skipEmpty_self [LawfulSerde α] (as : List α)
    (h : (fields.defaulted key [] : Option (List α)) = some []) :
    defaulted (skipEmpty key as fields) key [] = some as := by
  cases as with
  | nil => exact h
  | cons a as => exact defaulted_cons_self fields (a :: as) []

end

end Fields

end Slight
