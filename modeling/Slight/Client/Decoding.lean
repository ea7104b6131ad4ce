import Slight.Client.Timestamp
import Slight.Json

/-!
# Slight.Client.Decoding

The client's JSON layer: untyped values, and the conventions of its `Decodable`
types under the codec's key strategy:

* a keyed container finds a field under the camel-case form of its key;
* `decode` needs the field, `decodeIfPresent` takes a missing or `null` field
  for `nil`;
* an integer field takes any number that is integral and fits 64 bits.

A typed payload is decoded in two steps: the frame is read into a `JSONValue`,
whose numbers are all `Double`, and its encoding is decoded as the payload type.
`trip` is what that detour leaves of a document.
-/

namespace Slight

/-- The client's untyped JSON value. -/
inductive JSONValue where
  | null
  | bool (value : Bool)
  | number (value : Rat)
  | string (value : String)
  | array (values : List JSONValue)
  | object (fields : List (String × JSONValue))

/-- The `Double` nearest to an integer, ties to the even significand. -/
def doubleOfInt (n : Int) : Rat :=
  let unit := 2 ^ (Nat.log2 n.natAbs - 52)
  let rest := n.natAbs % unit
  let up := unit < 2 * rest ∨ 2 * rest = unit ∧ n.natAbs / unit % 2 = 1
  let rounded := (n.natAbs / unit + if up then 1 else 0) * unit
  let signed : Int := if n < 0 then -rounded else rounded
  signed

namespace JSONValue

/-! ## untyped values -/

mutual

/-- A document as a value, its integer literals read by `number`. -/
def read (number : Int → Rat) : Json → JSONValue
  | .null => .null
  | .bool b => .bool b
  | .int n => .number (number n)
  | .float q => .number q
  | .str s => .string s
  | .arr xs => .array (readAll number xs)
  | .obj fields => .object (readFields number fields)

def readAll (number : Int → Rat) : List Json → List JSONValue
  | [] => []
  | j :: js => read number j :: readAll number js

def readFields (number : Int → Rat) : List (String × Json) → List (String × JSONValue)
  | [] => []
  | (key, j) :: fields => (key, read number j) :: readFields number fields

end

/-- What the client's decoder makes of a document. -/
def decode : Json → JSONValue := read doubleOfInt

/-- What a document says, its numbers exact. -/
def exact : Json → JSONValue := read fun n => n

mutual

/-- A value as a document: an integral number is an integer literal, one from 2^53
on has an exponent. -/
def encode : JSONValue → Json
  | .null => .null
  | .bool b => .bool b
  | .number q => if q.den = 1 ∧ q.num.natAbs < 2 ^ 53 then .int q.num else .float q
  | .string s => .str s
  | .array values => .arr (encodeAll values)
  | .object fields => .obj (encodeFields fields)

def encodeAll : List JSONValue → List Json
  | [] => []
  | value :: values => encode value :: encodeAll values

def encodeFields : List (String × JSONValue) → List (String × Json)
  | [] => []
  | (key, value) :: fields => (key, encode value) :: encodeFields fields

end

end JSONValue

/-! ## keyed containers -/

def capitalized : List Char → List Char
  | [] => []
  | c :: rest => c.toUpper :: rest.map Char.toLower

/-- Camel case for snake case: the first word in lower case, the others
capitalized; underscores at either end stay, and a single word stays as it is. -/
def convertFromSnakeCase (key : String) : String :=
  let chars := key.toList
  let leading := chars.takeWhile (· = '_')
  let trailing := chars.reverse.takeWhile (· = '_')
  match (chars.splitOn '_').filter (· ≠ []) with
  | [] => key
  | [word] => .ofList (leading ++ word ++ trailing)
  | word :: words =>
      .ofList (leading ++ word.map Char.toLower ++ words.flatMap capitalized ++ trailing)

/-- Values the client decodes from JSON. -/
class Decodable (α : Type) where
  decodeJSON : Json → Option α

export Decodable (decodeJSON)

/-- The fields of an object under their camel-case keys; of two fields with one
key the first counts. -/
abbrev Container := List (String × Json)

/-- The keyed container of an object. -/
def Json.container : Json → Option Container
  | .obj fields => some (fields.map fun (key, j) => (convertFromSnakeCase key, j))
  | _ => none

namespace Container

variable {α : Type} [Decodable α]

/-- A field that must be there. -/
def decode (container : Container) (key : String) : Option α :=
  (container.lookup key).bind decodeJSON

/-- A field that may be missing or `null`. -/
def decodeIfPresent (container : Container) (key : String) : Option (Option α) :=
  match container.lookup key with
  | none => some none
  | some .null => some none
  | some j => (decodeJSON j).map some

/-- A field with a default. -/
def decodeOr (container : Container) (key : String) (dflt : α) : Option α :=
  (container.decodeIfPresent key).map (·.getD dflt)

end Container

/-- A struct, decoded from its keyed container. -/
class Keyed (α : Type) where
  ofContainer : Container → Option α

export Keyed (ofContainer)

instance {α : Type} [Keyed α] : Decodable α := ⟨fun j => j.container.bind ofContainer⟩

instance : Decodable JSONValue := ⟨fun j => some (.decode j)⟩

instance : Decodable Bool where
  decodeJSON
    | .bool b => some b
    | _ => none

instance : Decodable String where
  decodeJSON
    | .str s => some s
    | _ => none

/-- The numbers of a 64-bit `Int`. -/
def int64? (n : Int) : Option Int := if -2 ^ 63 ≤ n ∧ n < 2 ^ 63 then some n else none

instance : Decodable Int where
  decodeJSON
    | .int n => int64? n
    | .float q => if q.den = 1 then int64? q.num else none
    | _ => none

instance : Decodable Date where
  decodeJSON
    | .str s => parseTimestamp s
    | _ => none

instance {α : Type} [Decodable α] : Decodable (List α) where
  decodeJSON
    | .arr xs => xs.mapM decodeJSON
    | _ => none

/-- A string enum with a default for the raw values it does not know. -/
def rawValueOr {α : Type} (variants : List (String × α)) (dflt : α) : Json → Option α
  | .str s => some ((variants.lookup s).getD dflt)
  | _ => none

/-! ## typed payloads -/

/-- A typed payload out of an untyped field: absent and `null` give `nil`, and a
value is encoded and decoded again. -/
def decodePayload (α : Type) [Decodable α] (value : Option JSONValue) : Option (Option α) :=
  match value with
  | none => some none
  | some .null => some none
  | some value => (decodeJSON value.encode).map some

/-- `try?` on a decoded payload: `nil` when it is absent or does not decode. -/
def payloadAs (α : Type) [Decodable α] (value : Option JSONValue) : Option α :=
  (decodePayload α value).join

/-- A document after the detour through an untyped value. -/
def Json.trip (j : Json) : Json := (JSONValue.decode j).encode

/-- The fields of an object after the detour, as a container. -/
def Container.trip (fields : Fields) : Container :=
  fields.map fun (key, j) => (convertFromSnakeCase key, j.trip)

/-- The integer an integer literal is after the detour. -/
def Int.trip (n : Int) : Int := (doubleOfInt n).num

namespace JSONValue

theorem readAll_eq (number : Int → Rat) (js : List Json) :
    readAll number js = js.map (read number) := by
  induction js with
  | nil => rfl
  | cons j js ih => rw [readAll, ih, List.map_cons]

theorem readFields_eq (number : Int → Rat) (fields : Fields) :
    readFields number fields = fields.map fun (key, j) => (key, read number j) := by
  induction fields with
  | nil => rfl
  | cons field fields ih =>
      obtain ⟨key, j⟩ := field
      rw [readFields, ih, List.map_cons]

theorem encodeAll_eq (values : List JSONValue) : encodeAll values = values.map encode := by
  induction values with
  | nil => rfl
  | cons value values ih => rw [encodeAll, ih, List.map_cons]

theorem encodeFields_eq (fields : List (String × JSONValue)) :
    encodeFields fields = fields.map fun (key, value) => (key, encode value) := by
  induction fields with
  | nil => rfl
  | cons field fields ih =>
      obtain ⟨key, value⟩ := field
      rw [encodeFields, ih, List.map_cons]

end JSONValue

namespace Json

@[simp] theorem trip_null : trip .null = .null := rfl

@[simp] theorem trip_bool (b : Bool) : trip (.bool b) = .bool b := rfl

@[simp] theorem trip_str (s : String) : trip (.str s) = .str s := rfl

@[simp] theorem trip_arr (xs : List Json) : trip (.arr xs) = .arr (xs.map trip) := by
  rw [trip, JSONValue.decode, JSONValue.read, JSONValue.encode, JSONValue.readAll_eq,
    JSONValue.encodeAll_eq, List.map_map]
  rfl

@[simp] theorem trip_obj (fields : Fields) :
    trip (.obj fields) = .obj (fields.map fun (key, j) => (key, j.trip)) := by
  rw [trip, JSONValue.decode, JSONValue.read, JSONValue.encode, JSONValue.readFields_eq,
    JSONValue.encodeFields_eq, List.map_map]
  rfl

@[simp] theorem container_trip_obj (fields : Fields) :
    (trip (.obj fields)).container = some (Container.trip fields) := by
  rw [trip_obj, container, List.map_map]
  rfl

/-- Only `null` becomes `null`. -/
theorem trip_eq_null {j : Json} : j.trip = .null ↔ j = .null := by
  constructor
  · intro h
    cases j with
    | null => rfl
    | int n =>
        rw [trip, JSONValue.decode, JSONValue.read, JSONValue.encode] at h
        split at h <;> cases h
    | float q =>
        rw [trip, JSONValue.decode, JSONValue.read, JSONValue.encode] at h
        split at h <;> cases h
    | arr xs =>
        rw [trip_arr] at h
        cases h
    | obj fields =>
        rw [trip_obj] at h
        cases h
    | bool b => cases h
    | str s => cases h
  · rintro rfl
    rfl

end Json

/-- A `Double` made of an integer is integral. -/
theorem den_doubleOfInt (n : Int) : (doubleOfInt n).den = 1 := Rat.den_intCast _

theorem Json.trip_float (q : Rat) :
    trip (.float q) = if q.den = 1 ∧ q.num.natAbs < 2 ^ 53 then .int q.num else .float q := rfl

theorem Json.trip_int (n : Int) : trip (.int n) = trip (.float (doubleOfInt n)) := rfl

/-- Integers below 2^53 are `Double`s. -/
theorem doubleOfInt_of_lt {n : Int} (hn : n.natAbs < 2 ^ 53) : doubleOfInt n = n := by
  have hlog : Nat.log2 n.natAbs - 52 = 0 := by
    by_cases hzero : n.natAbs = 0
    · rw [hzero]
      rfl
    · have hlt := (Nat.log2_lt hzero).mpr hn
      omega
  have hup : ¬ (1 < 2 * (n.natAbs % 1) ∨ 2 * (n.natAbs % 1) = 1 ∧ n.natAbs / 1 % 2 = 1) := by
    rw [Nat.mod_one]
    omega
  unfold doubleOfInt
  dsimp only
  rw [hlog, Nat.pow_zero, if_neg hup, Nat.div_one, Nat.add_zero, Nat.mul_one]
  have hsigned : (if n < 0 then -(n.natAbs : Int) else n.natAbs) = n := by
    split <;> omega
  rw [hsigned]

theorem Int.trip_of_lt {n : Int} (hn : n.natAbs < 2 ^ 53) : Int.trip n = n := by
  rw [Int.trip, doubleOfInt_of_lt hn, Rat.num_intCast]

/-- The `Double` nearest to a number of `53 + e` binary digits: what is rounded are the last
`e` of them. -/
theorem trip_eq_rounded {n e : Nat} (hlow : 2 ^ (52 + e) ≤ n) (hhigh : n < 2 ^ (53 + e)) :
    Int.trip n = ((n / 2 ^ e +
      if 2 ^ e < 2 * (n % 2 ^ e) ∨ 2 * (n % 2 ^ e) = 2 ^ e ∧ n / 2 ^ e % 2 = 1 then 1 else 0) *
        2 ^ e : Nat) := by
  have hpos : 0 < 2 ^ (52 + e) := Nat.two_pow_pos _
  have hlog : Nat.log2 n = 52 + e :=
    (Nat.log2_eq_iff (by omega)).mpr ⟨hlow, by rw [show 52 + e + 1 = 53 + e by omega]; exact hhigh⟩
  have hunit : 52 + e - 52 = e := by omega
  have hsign : ¬ ((n : Int) < 0) := by omega
  unfold Int.trip doubleOfInt
  rw [Int.natAbs_natCast, hlog, hunit]
  simp only [if_neg hsign]
  rfl

/-- The significand of such a number has 53 digits. -/
theorem significand_bounds {n e : Nat} (hlow : 2 ^ (52 + e) ≤ n) (hhigh : n < 2 ^ (53 + e)) :
    2 ^ 52 ≤ n / 2 ^ e ∧ n / 2 ^ e < 2 ^ 53 := by
  rw [Nat.pow_add] at hlow hhigh
  have hpos : 0 < 2 ^ e := Nat.two_pow_pos _
  exact ⟨(Nat.le_div_iff_mul_le hpos).mpr hlow, (Nat.div_lt_iff_lt_mul hpos).mpr hhigh⟩

/-- A number that is rounded to one of 64 bits is one of 63 bits that is not rounded up to
the power. -/
theorem trip_lt_iff (n : Nat) : Int.trip n < 2 ^ 63 ↔ n < 2 ^ 63 - 512 := by
  by_cases hsmall : n < 2 ^ 53
  · rw [Int.trip_of_lt (by omega)]
    omega
  obtain ⟨e, hlog⟩ : ∃ e, Nat.log2 n = 52 + e := by
    have hle := (Nat.le_log2 (k := 53) (n := n) (by omega)).mpr (by omega)
    exact ⟨Nat.log2 n - 52, by omega⟩
  obtain ⟨hlow, hhigh⟩ := (Nat.log2_eq_iff (by omega)).mp hlog
  rw [show 52 + e + 1 = 53 + e by omega] at hhigh
  obtain ⟨hleast, hmost⟩ := significand_bounds hlow hhigh
  rw [trip_eq_rounded hlow hhigh]
  by_cases hbelow : e < 10
  · -- rounding up reaches at most `2 ^ 62`
    have hunit : 2 ^ e ≤ 2 ^ 9 := Nat.pow_le_pow_right (by omega) (by omega)
    have htop : 2 ^ (53 + e) ≤ 2 ^ 62 := Nat.pow_le_pow_right (by omega) (by omega)
    have hround := Nat.mul_le_mul (show (n / 2 ^ e + if 2 ^ e < 2 * (n % 2 ^ e) ∨
      2 * (n % 2 ^ e) = 2 ^ e ∧ n / 2 ^ e % 2 = 1 then 1 else 0) ≤ 2 ^ 53 by split <;> omega) hunit
    omega
  · by_cases hequal : e = 10
    · subst hequal
      norm_num at *
      split <;> omega
    · have hunit : 2 ^ 11 ≤ 2 ^ e := Nat.pow_le_pow_right (by omega) (by omega)
      have hbig : 2 ^ 63 ≤ 2 ^ (52 + e) := Nat.pow_le_pow_right (by omega) (by omega)
      have hround := Nat.mul_le_mul (show 2 ^ 52 ≤ (n / 2 ^ e + if 2 ^ e < 2 * (n % 2 ^ e) ∨
        2 * (n % 2 ^ e) = 2 ^ e ∧ n / 2 ^ e % 2 = 1 then 1 else 0) by split <;> omega) hunit
      omega

theorem trip_nonneg (n : Nat) : 0 ≤ Int.trip n := by
  have hsign : ¬ ((n : Int) < 0) := by omega
  unfold Int.trip doubleOfInt
  simp only [if_neg hsign]
  rw [Rat.num_intCast]
  omega

/-- A number is an integer field after the detour if it is integral. -/
theorem decode_trip_float (q : Rat) :
    decodeJSON (Json.float q).trip = if q.den = 1 then int64? q.num else none := by
  rw [Json.trip_float]
  by_cases hint : q.den = 1 ∧ q.num.natAbs < 2 ^ 53
  · rw [if_pos hint, if_pos hint.1]
    rfl
  · rw [if_neg hint]
    rfl

end Slight
