import Slight.Client.Survival
import Slight.Support.Double
import Slight.Support.Lists

/-!
# Slight.Client.Rendering

The text the client shows for an untyped value, the raw input and output of a tool call
among them.

An integral number is shown as an `Int`, and the conversion traps where the number does
not fit 64 bits.  Nothing bounds the numbers of a document, so that a value can be shown
exactly if all its numbers are of that range, the neighbours that are rounded into it
included.  A trap is `none` here.
-/

namespace Slight

open Support

/-! ## dictionaries -/

/-- The entries of a dictionary made of some fields.  Strings of one canonical form are
equal keys, and the first field of a key counts. -/
def dictionary {α : Type} (canonical : String → String) : List (String × α) → List (String × α)
  | [] => []
  | (key, a) :: fields =>
      (key, a) :: (dictionary canonical fields).filter fun entry =>
        canonical entry.1 ≠ canonical key

namespace JSONValue

/-! ## integers -/

/-- `Int(value)`. -/
def intOf (value : Rat) : Option Int := int64? (if value < 0 then ⌈value⌉ else ⌊value⌋)

/-- `value.rounded()`: the nearest integer, ties away from zero. -/
def rounded (value : Rat) : Rat :=
  if value < 0 then -(⌊-value + 1 / 2⌋ : Rat) else ⌊value + 1 / 2⌋

/-- `intValue`, of which `nil` is `some none`. -/
def intValue : JSONValue → Option (Option Int)
  | .number value => if rounded value = value then (intOf value).map some else some none
  | _ => some none

/-! ## texts -/

section

-- `String` comparison in Swift, and `String(value)` for a `Double`
variable (canonical : String → String) (describe : Rat → String)

mutual

def prettyDescription : JSONValue → Option String
  | .null => some "null"
  | .bool value => some (if value then "true" else "false")
  | .number value =>
      if rounded value = value then (intOf value).map Int.repr else some (describe value)
  | .string value => some value
  | .array values =>
      ((prettyAll values).mapM id).map fun texts => "[" ++ ", ".intercalate texts ++ "]"
  | .object fields =>
      let sorted := (dictionary canonical (prettyFields fields)).mergeSort
        fun a b => canonical a.1 ≤ canonical b.1
      (sorted.mapM fun (key, text) => Option.map (fun text => key ++ ": " ++ text) text).map
        fun body => "\x7b" ++ ", ".intercalate body ++ "\x7d"

def prettyAll : List JSONValue → List (Option String)
  | [] => []
  | value :: values => prettyDescription value :: prettyAll values

def prettyFields : List (String × JSONValue) → List (String × Option String)
  | [] => []
  | (key, value) :: fields => (key, prettyDescription value) :: prettyFields fields

end

mutual

/-- The numbers of a value. -/
def numbers : JSONValue → List Rat
  | .number value => [value]
  | .array values => numbersAll values
  | .object fields => (dictionary canonical (numbersFields fields)).flatMap (·.2)
  | _ => []

def numbersAll : List JSONValue → List Rat
  | [] => []
  | value :: values => numbers value ++ numbersAll values

def numbersFields : List (String × JSONValue) → List (String × List Rat)
  | [] => []
  | (key, value) :: fields => (key, numbers value) :: numbersFields fields

end

end

end JSONValue

namespace Json

mutual

/-- A document of exact literals as it is read: a literal is the nearest `Double`.  The
integer literals are rounded where they are decoded. -/
def nearest : Json → Json
  | .float q => .float (Double.nearest q)
  | .arr xs => .arr (nearestAll xs)
  | .obj fields => .obj (nearestFields fields)
  | j => j

def nearestAll : List Json → List Json
  | [] => []
  | j :: js => nearest j :: nearestAll js

def nearestFields : List (String × Json) → List (String × Json)
  | [] => []
  | (key, j) :: fields => (key, nearest j) :: nearestFields fields

end

variable (canonical : String → String)

mutual

/-- The number literals of a document. -/
def literals : Json → List Rat
  | .int n => [(n : Rat)]
  | .float q => [q]
  | .arr xs => literalsAll xs
  | .obj fields => (dictionary canonical (literalsFields fields)).flatMap (·.2)
  | _ => []

def literalsAll : List Json → List Rat
  | [] => []
  | j :: js => literals j ++ literalsAll js

def literalsFields : List (String × Json) → List (String × List Rat)
  | [] => []
  | (key, j) :: fields => (key, literals j) :: literalsFields fields

end

end Json

/-! ## integers and doubles -/

theorem doubleOfInt_neg (m : Nat) : doubleOfInt (-m) = -doubleOfInt m := by
  have hsign : ¬ (m : Int) < 0 := by omega
  unfold doubleOfInt
  rw [Int.natAbs_neg, Int.natAbs_natCast]
  dsimp only
  rw [if_neg hsign]
  split
  · rw [Int.cast_neg]
  · next h =>
      have hzero : m = 0 := by omega
      subst hzero
      rfl

/-- The two ways to say what the nearest `Double` of an integer is. -/
theorem doubleOfInt_eq_nearest (n : Int) : doubleOfInt n = Double.nearest n := by
  have hmagnitude : ∀ m : Nat, doubleOfInt m = Double.magnitude m := by
    intro m
    by_cases hsmall : m < 2 ^ 53
    · rw [doubleOfInt_of_lt (by omega), Double.magnitude_natCast_of_lt hsmall, Int.cast_natCast]
    · obtain ⟨e, hlog⟩ : ∃ e, Nat.log2 m = 52 + e := by
        have hle := (Nat.le_log2 (k := 53) (n := m) (by omega)).mpr (by omega)
        exact ⟨Nat.log2 m - 52, by omega⟩
      obtain ⟨hlow, hhigh⟩ := (Nat.log2_eq_iff (by omega)).mp hlog
      rw [show 52 + e + 1 = 53 + e by omega] at hhigh
      have hwhole : ((Int.trip m : Int) : Rat) = doubleOfInt m :=
        (Rat.den_eq_one_iff _).mp (den_doubleOfInt m)
      rw [Double.magnitude_natCast hlow hhigh, ← hwhole, trip_eq_rounded hlow hhigh,
        Int.cast_natCast]
  unfold Double.nearest
  obtain ⟨m, rfl | rfl⟩ := n.eq_nat_or_neg
  · rw [if_neg (by rw [Int.cast_natCast, not_lt]; exact Nat.cast_nonneg m), Int.cast_natCast,
      hmagnitude]
  · rw [doubleOfInt_neg, hmagnitude, Int.cast_neg, Int.cast_natCast, neg_neg]
    split
    · rfl
    · next h =>
        have hzero : m = 0 := by
          by_contra hne
          exact h (neg_neg_of_pos (by exact_mod_cast Nat.pos_of_ne_zero hne))
        subst hzero
        rw [Nat.cast_zero, neg_zero, Double.magnitude_zero, neg_zero]

namespace JSONValue

theorem rounded_eq_iff (value : Rat) : rounded value = value ↔ ∃ n : Int, value = n := by
  constructor
  · intro h
    unfold rounded at h
    split at h
    · exact ⟨-⌊-value + 1 / 2⌋, by rw [Int.cast_neg]; exact h.symm⟩
    · exact ⟨_, h.symm⟩
  · rintro ⟨n, rfl⟩
    have hhalf : ⌊(1 / 2 : Rat)⌋ = 0 := by norm_num
    unfold rounded
    split
    · have hneg : -(n : Rat) = ((-n : Int) : Rat) := (Int.cast_neg n).symm
      rw [hneg, Int.floor_intCast_add, hhalf, add_zero, Int.cast_neg, neg_neg]
    · rw [Int.floor_intCast_add, hhalf, add_zero]

theorem intOf_intCast (n : Int) : intOf n = int64? n := by
  rw [intOf, Int.ceil_intCast, Int.floor_intCast, ite_self]

/-- A number that is no integer, or one of 64 bits. -/
def Convertible (value : Rat) : Prop := ∀ n : Int, value = n → -2 ^ 63 ≤ n ∧ n < 2 ^ 63

/-- The conversion does not trap where it is made. -/
theorem isSome_intOf {value : Rat} (h : rounded value = value) :
    (intOf value).isSome ↔ Convertible value := by
  obtain ⟨n, rfl⟩ := (rounded_eq_iff value).mp h
  rw [intOf_intCast, int64?, Convertible]
  constructor
  · intro hsome m heq
    rw [← Int.cast_inj.mp heq]
    split at hsome
    · assumption
    · contradiction
  · intro hconvertible
    rw [if_pos (hconvertible n rfl)]
    rfl

theorem convertible_of_ne {value : Rat} (h : rounded value ≠ value) : Convertible value :=
  fun n hn => absurd ((rounded_eq_iff value).mpr ⟨n, hn⟩) h

theorem isSome_intValue (value : Rat) :
    (JSONValue.number value).intValue.isSome ↔ Convertible value := by
  unfold intValue
  dsimp only
  by_cases h : rounded value = value
  · rw [if_pos h, Option.isSome_map, isSome_intOf h]
  · rw [if_neg h]
    exact ⟨fun _ => convertible_of_ne h, fun _ => rfl⟩

/-- A `Double` is convertible if the number it is read from is in the range of the
integers of 64 bits, or so near to it that it is rounded into it. -/
theorem convertible_nearest (q : Rat) :
    Convertible (Double.nearest q) ↔ -2 ^ 63 - 1024 ≤ q ∧ q < 2 ^ 63 - 512 := by
  rw [← Double.nearest_in_range_iff]
  constructor
  · intro h
    by_contra hout
    obtain ⟨n, hn⟩ := Double.nearest_eq_intCast hout
    obtain ⟨hlow, hhigh⟩ := h n hn
    rw [hn] at hout
    exact hout ⟨by exact_mod_cast hlow, by exact_mod_cast hhigh⟩
  · intro ⟨hlow, hhigh⟩ n hn
    rw [hn] at hlow hhigh
    exact ⟨by exact_mod_cast hlow, by exact_mod_cast hhigh⟩

end JSONValue

/-! ## all numbers of a value -/

section

variable {α β : Type} (canonical : String → String)

theorem mem_of_mem_dictionary {entry : String × α} {fields : List (String × α)}
    (h : entry ∈ dictionary canonical fields) : entry ∈ fields := by
  induction fields with
  | nil => exact h
  | cons field fields ih =>
      obtain ⟨key, a⟩ := field
      rcases List.mem_cons.mp h with rfl | h
      · exact List.mem_cons_self
      · exact List.mem_cons_of_mem _ (ih (List.mem_of_mem_filter h))

theorem dictionary_map (f : α → β) (fields : List (String × α)) :
    dictionary canonical (fields.map fun (key, a) => (key, f a)) =
      (dictionary canonical fields).map fun (key, a) => (key, f a) := by
  induction fields with
  | nil => rfl
  | cons field fields ih =>
      obtain ⟨key, a⟩ := field
      rw [List.map_cons, dictionary, dictionary, ih, List.filter_map, List.map_cons]
      rfl

end

namespace JSONValue

theorem ind {motive : JSONValue → Prop} (null : motive .null) (bool : ∀ b, motive (.bool b))
    (number : ∀ q, motive (.number q)) (string : ∀ s, motive (.string s))
    (array : ∀ values, (∀ value ∈ values, motive value) → motive (.array values))
    (object : ∀ fields, (∀ field ∈ fields, motive field.2) → motive (.object fields)) :
    ∀ value, motive value := by
  intro value
  refine @JSONValue.rec motive (fun values => ∀ value ∈ values, motive value)
    (fun fields => ∀ field ∈ fields, motive field.2) (fun field => motive field.2)
    null bool number string array object (fun _ h => absurd h List.not_mem_nil)
    (fun value values hvalue hvalues => ?_) (fun _ h => absurd h List.not_mem_nil)
    (fun field fields hfield hfields => ?_) (fun _ _ h => h) value
  · exact List.forall_mem_cons.mpr ⟨hvalue, hvalues⟩
  · exact List.forall_mem_cons.mpr ⟨hfield, hfields⟩

variable (canonical : String → String) (describe : Rat → String)

theorem prettyAll_eq (values : List JSONValue) :
    prettyAll canonical describe values = values.map (prettyDescription canonical describe) := by
  induction values with
  | nil => rw [prettyAll, List.map_nil]
  | cons value values ih => rw [prettyAll, ih, List.map_cons]

theorem prettyFields_eq (fields : List (String × JSONValue)) :
    prettyFields canonical describe fields =
      fields.map fun (key, value) => (key, prettyDescription canonical describe value) := by
  induction fields with
  | nil => rw [prettyFields, List.map_nil]
  | cons field fields ih => rw [prettyFields, ih, List.map_cons]

theorem numbersAll_eq (values : List JSONValue) :
    numbersAll canonical values = values.flatMap (numbers canonical) := by
  induction values with
  | nil => rw [numbersAll, List.flatMap_nil]
  | cons value values ih => rw [numbersAll, ih, List.flatMap_cons]

theorem numbersFields_eq (fields : List (String × JSONValue)) :
    numbersFields canonical fields =
      fields.map fun (key, value) => (key, numbers canonical value) := by
  induction fields with
  | nil => rw [numbersFields, List.map_nil]
  | cons field fields ih => rw [numbersFields, ih, List.map_cons]

theorem numbers_object (fields : List (String × JSONValue)) :
    numbers canonical (.object fields) =
      (dictionary canonical fields).flatMap fun field => numbers canonical field.2 := by
  rw [numbers, numbersFields_eq, dictionary_map, List.flatMap_map]

/-- **A value is shown without a trap** if all its numbers are convertible. -/
theorem isSome_prettyDescription (value : JSONValue) :
    (prettyDescription canonical describe value).isSome ↔
      ∀ q ∈ numbers canonical value, Convertible q := by
  induction value using JSONValue.ind with
  | null => simp [prettyDescription, numbers]
  | bool b => simp [prettyDescription, numbers]
  | string s => simp [prettyDescription, numbers]
  | number q =>
      rw [prettyDescription, numbers, List.forall_mem_singleton]
      by_cases h : rounded q = q
      · rw [if_pos h, Option.isSome_map, isSome_intOf h]
      · rw [if_neg h]
        exact ⟨fun _ => convertible_of_ne h, fun _ => rfl⟩
  | array values ih =>
      rw [prettyDescription, Option.isSome_map, prettyAll_eq, isSome_mapM, List.forall_mem_map,
        numbers, numbersAll_eq, List.forall_mem_flatMap]
      exact forall₂_congr ih
  | object fields ih =>
      rw [prettyDescription, Option.isSome_map, prettyFields_eq, dictionary_map, isSome_mapM,
        numbers_object, List.forall_mem_flatMap]
      constructor
      · intro h field hfield
        have hentry := h (field.1, prettyDescription canonical describe field.2)
          (List.mem_mergeSort.mpr (List.mem_map.mpr ⟨field, hfield, rfl⟩))
        rw [Option.isSome_map] at hentry
        exact (ih field (mem_of_mem_dictionary canonical hfield)).mp hentry
      · intro h entry hentry
        obtain ⟨field, hfield, rfl⟩ := List.mem_map.mp (List.mem_mergeSort.mp hentry)
        dsimp only
        rw [Option.isSome_map]
        exact (ih field (mem_of_mem_dictionary canonical hfield)).mpr (h field hfield)

end JSONValue

namespace Json

theorem ind {motive : Json → Prop} (null : motive .null) (bool : ∀ b, motive (.bool b))
    (int : ∀ n, motive (.int n)) (float : ∀ q, motive (.float q)) (str : ∀ s, motive (.str s))
    (arr : ∀ xs, (∀ j ∈ xs, motive j) → motive (.arr xs))
    (obj : ∀ fields, (∀ field ∈ fields, motive field.2) → motive (.obj fields)) :
    ∀ j, motive j := by
  intro j
  refine @Json.rec motive (fun xs => ∀ j ∈ xs, motive j)
    (fun fields => ∀ field ∈ fields, motive field.2) (fun field => motive field.2)
    null bool int float str arr obj (fun _ h => absurd h List.not_mem_nil)
    (fun j js hj hjs => ?_) (fun _ h => absurd h List.not_mem_nil)
    (fun field fields hfield hfields => ?_) (fun _ _ h => h) j
  · exact List.forall_mem_cons.mpr ⟨hj, hjs⟩
  · exact List.forall_mem_cons.mpr ⟨hfield, hfields⟩

theorem nearestAll_eq (xs : List Json) : nearestAll xs = xs.map nearest := by
  induction xs with
  | nil => rw [nearestAll, List.map_nil]
  | cons j js ih => rw [nearestAll, ih, List.map_cons]

theorem nearestFields_eq (fields : Fields) :
    nearestFields fields = fields.map fun (key, j) => (key, j.nearest) := by
  induction fields with
  | nil => rw [nearestFields, List.map_nil]
  | cons field fields ih => rw [nearestFields, ih, List.map_cons]

variable (canonical : String → String)

theorem literalsAll_eq (xs : List Json) :
    literalsAll canonical xs = xs.flatMap (literals canonical) := by
  induction xs with
  | nil => rw [literalsAll, List.flatMap_nil]
  | cons j js ih => rw [literalsAll, ih, List.flatMap_cons]

theorem literalsFields_eq (fields : Fields) :
    literalsFields canonical fields = fields.map fun (key, j) => (key, literals canonical j) := by
  induction fields with
  | nil => rw [literalsFields, List.map_nil]
  | cons field fields ih => rw [literalsFields, ih, List.map_cons]

theorem literals_obj (fields : Fields) :
    literals canonical (.obj fields) =
      (dictionary canonical fields).flatMap fun field => literals canonical field.2 := by
  rw [literals, literalsFields_eq, dictionary_map, List.flatMap_map]

/-- The numbers of the value are the `Double`s of the literals. -/
theorem numbers_decode_nearest (j : Json) :
    JSONValue.numbers canonical (.decode j.nearest) =
      (literals canonical j).map Double.nearest := by
  induction j using Json.ind with
  | null => rfl
  | bool b => rfl
  | str s => rfl
  | int n =>
      rw [nearest, JSONValue.decode, JSONValue.read, JSONValue.numbers, literals,
        doubleOfInt_eq_nearest, List.map_singleton]
      all_goals exact nofun
  | float q => rfl
  | arr xs ih =>
      rw [nearest, nearestAll_eq, JSONValue.decode, JSONValue.read, JSONValue.readAll_eq,
        JSONValue.numbers, JSONValue.numbersAll_eq, literals, literalsAll_eq, List.map_map,
        List.flatMap_map, List.map_flatMap]
      exact List.flatMap_congr ih
  | obj fields ih =>
      rw [nearest, nearestFields_eq, JSONValue.decode, JSONValue.read, JSONValue.readFields_eq,
        JSONValue.numbers_object, dictionary_map, dictionary_map, literals_obj, List.map_map,
        List.flatMap_map, List.map_flatMap]
      exact List.flatMap_congr fun field hfield => ih field (mem_of_mem_dictionary canonical hfield)

/-- The detour of a payload through an untyped value changes nothing that is untyped. -/
theorem decode_trip (j : Json) : JSONValue.decode j.trip = JSONValue.decode j := by
  induction j using Json.ind with
  | null => rfl
  | bool b => rfl
  | str s => rfl
  | int n => rw [trip_int, decode_trip_float_exact, JSONValue.decode, JSONValue.read]
  | float q => exact decode_trip_float_exact q
  | arr xs ih =>
      rw [trip_arr, JSONValue.decode, JSONValue.read, JSONValue.readAll_eq, List.map_map,
        JSONValue.read, JSONValue.readAll_eq]
      exact congrArg _ (List.map_congr_left ih)
  | obj fields ih =>
      rw [trip_obj, JSONValue.decode, JSONValue.read, JSONValue.readFields_eq, List.map_map,
        JSONValue.read, JSONValue.readFields_eq]
      exact congrArg _ (List.map_congr_left fun field hfield =>
        congrArg (Prod.mk field.1) (ih field hfield))

end Json

/-! ## the raw input and output of a tool call -/

/-- Showing the value, and reading each of its numbers as an `Int`, does not trap. -/
def JSONValue.Shown (canonical : String → String) (describe : Rat → String) (value : JSONValue) :
    Prop :=
  (value.prettyDescription canonical describe).isSome ∧
    ∀ q ∈ value.numbers canonical, (JSONValue.number q).intValue.isSome

theorem JSONValue.shown_iff (canonical : String → String) (describe : Rat → String)
    (value : JSONValue) :
    value.Shown canonical describe ↔ ∀ q ∈ value.numbers canonical, Convertible q := by
  rw [Shown, isSome_prettyDescription]
  exact ⟨fun h => h.1, fun h => ⟨h, fun q hq => (isSome_intValue q).mpr (h q hq)⟩⟩

/-- The values the client gets for a raw field are the document's own. -/
theorem receivedRaw_some {j : Json} (h : j ≠ .null) :
    receivedRaw (some j) = some (JSONValue.decode j) := by
  have hraw : rereadRaw (some j) = some j := by
    cases j <;> first | rfl | exact absurd rfl h
  rw [receivedRaw, hraw, Option.map_some, Json.decode_trip]

theorem Json.nearest_eq_null {j : Json} : j.nearest = .null ↔ j = .null := by
  cases j <;> simp [nearest]

theorem shown_of_literals (canonical : String → String) (describe : Rat → String) (j : Json) :
    (∀ value, receivedRaw (some j.nearest) = some value → value.Shown canonical describe) ↔
      ∀ q ∈ j.literals canonical, JSONValue.Convertible (Double.nearest q) := by
  by_cases hnull : j = .null
  · subst hnull
    exact ⟨fun _ q hq => absurd hq List.not_mem_nil, fun _ value h => by contradiction⟩
  · rw [receivedRaw_some (mt Json.nearest_eq_null.mp hnull)]
    constructor
    · intro h
      have hshown := h _ rfl
      rw [JSONValue.shown_iff, Json.numbers_decode_nearest, List.forall_mem_map] at hshown
      exact hshown
    · rintro h value ⟨⟩
      rw [JSONValue.shown_iff, Json.numbers_decode_nearest, List.forall_mem_map]
      exact h

end Slight
