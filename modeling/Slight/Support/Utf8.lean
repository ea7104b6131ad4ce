import Mathlib

/-!
# Slight.Support.Utf8

The bytes of a text.  An ASCII byte of an encoded text is a character of it, so that
what looks for ASCII bytes only may look at the characters, and the other way round.
-/

namespace Support

/-- The bytes of some characters. -/
def utf8 (chars : List Char) : List UInt8 :=
  chars.flatMap String.utf8EncodeChar

@[simp] theorem utf8_nil : utf8 [] = [] := rfl

@[simp] theorem utf8_append (xs ys : List Char) : utf8 (xs ++ ys) = utf8 xs ++ utf8 ys :=
  List.flatMap_append

@[simp] theorem utf8_eq_nil {chars : List Char} : utf8 chars = [] ↔ chars = [] := by
  simp [utf8, ← List.eq_nil_iff_forall_not_mem]

/-- The text of some bytes, where they are one. -/
def fromUtf8? (bytes : List UInt8) : Option String :=
  String.fromUTF8? bytes.toByteArray

theorem toByteArray_utf8 (chars : List Char) :
    (utf8 chars).toByteArray = (String.ofList chars).toByteArray := by
  rw [String.toByteArray_ofList, List.utf8Encode, utf8]

@[simp] theorem fromUtf8?_utf8 (chars : List Char) :
    fromUtf8? (utf8 chars) = some (String.ofList chars) := by
  rw [fromUtf8?, toByteArray_utf8, String.fromUTF8?, dif_pos (String.ofList chars).isValidUTF8]
  rfl

theorem utf8_injective : Function.Injective utf8 := by
  intro xs ys h
  have htexts := congrArg fromUtf8? h
  rw [fromUtf8?_utf8, fromUtf8?_utf8, Option.some_inj] at htexts
  exact String.ofList_injective htexts

@[simp] theorem utf8_singleton (c : Char) : utf8 [c] = String.utf8EncodeChar c :=
  List.flatMap_singleton _ _

theorem utf8_replicate {c : Char} {byte : UInt8} (hc : String.utf8EncodeChar c = [byte]) (n : Nat) :
    utf8 (List.replicate n c) = List.replicate n byte := by
  induction n with
  | zero => rfl
  | succ n ih =>
      rw [List.replicate_succ, List.replicate_succ, utf8, List.flatMap_cons, hc, ← ih]
      rfl

theorem utf8EncodeChar_injective : Function.Injective String.utf8EncodeChar := by
  intro c d h
  rw [← utf8_singleton, ← utf8_singleton] at h
  exact List.singleton_inj.mp (utf8_injective h)

theorem length_utf8 (chars : List Char) :
    (utf8 chars).length = (String.ofList chars).utf8ByteSize := by
  rw [← String.size_toByteArray, ← toByteArray_utf8, List.size_toByteArray]

/-- Bytes that are UTF-8 are the bytes of some characters. -/
theorem exists_utf8_of_isValidUTF8 {bytes : List UInt8}
    (h : bytes.toByteArray.IsValidUTF8) : ∃ chars, bytes = utf8 chars := by
  obtain ⟨chars, hchars⟩ := h
  use chars
  have hdata := congrArg ByteArray.data hchars
  rw [List.utf8Encode, List.data_toByteArray, List.data_toByteArray] at hdata
  exact List.toArray_inj hdata

/-! ## ASCII bytes -/

theorem le_or_of_le {high : UInt8} (low : UInt8) (h : 128 ≤ high) : 128 ≤ low ||| high := by
  rw [UInt8.le_iff_toNat_le] at h ⊢
  rw [UInt8.toNat_or]
  exact h.trans Nat.right_le_or

/-- The bytes of a longer encoding are no ASCII bytes. -/
theorem utf8EncodeChar_of_ascii {c : Char} {byte : UInt8}
    (hmem : byte ∈ String.utf8EncodeChar c) (hbyte : byte < 128) :
    String.utf8EncodeChar c = [byte] := by
  rcases c.utf8Size_eq with hsize | hsize | hsize | hsize
  · rw [String.utf8EncodeChar_eq_singleton hsize] at hmem ⊢
    rw [List.mem_singleton.mp hmem]
  · have hhigh : 128 ≤ byte := by
      rw [String.utf8EncodeChar_eq_cons_cons hsize, List.mem_pair] at hmem
      rcases hmem with rfl | rfl <;> exact le_or_of_le _ (by decide)
    exact absurd hbyte (UInt8.not_lt.mpr hhigh)
  · have hhigh : 128 ≤ byte := by
      simp only [String.utf8EncodeChar_eq_cons_cons_cons hsize, List.mem_cons, List.not_mem_nil,
        or_false] at hmem
      rcases hmem with rfl | rfl | rfl <;> exact le_or_of_le _ (by decide)
    exact absurd hbyte (UInt8.not_lt.mpr hhigh)
  · have hhigh : 128 ≤ byte := by
      simp only [String.utf8EncodeChar_eq_cons_cons_cons_cons hsize, List.mem_cons,
        List.not_mem_nil, or_false] at hmem
      rcases hmem with rfl | rfl | rfl | rfl <;> exact le_or_of_le _ (by decide)
    exact absurd hbyte (UInt8.not_lt.mpr hhigh)

/-- An ASCII byte of a text is a character of it. -/
theorem mem_utf8_iff {chars : List Char} {c : Char} {byte : UInt8}
    (hc : String.utf8EncodeChar c = [byte]) (hbyte : byte < 128) :
    byte ∈ utf8 chars ↔ c ∈ chars := by
  rw [utf8, List.mem_flatMap]
  constructor
  · rintro ⟨other, hother, hmem⟩
    have hsame : other = c := by
      apply utf8EncodeChar_injective
      rw [utf8EncodeChar_of_ascii hmem hbyte, hc]
    exact hsame ▸ hother
  · intro hmem
    exact ⟨c, hmem, by simp [hc]⟩

/-- Dropping ASCII bytes off the end drops the characters they encode. -/
theorem utf8_rdropWhile {p : UInt8 → Bool} {q : Char → Bool}
    (hp : ∀ byte, p byte = true → byte < 128)
    (hq : ∀ c, q c = true ↔ ∃ byte, String.utf8EncodeChar c = [byte] ∧ p byte = true)
    (chars : List Char) : (utf8 chars).rdropWhile p = utf8 (chars.rdropWhile q) := by
  induction chars using List.reverseRecOn with
  | nil => rfl
  | append_singleton front c ih =>
      have hsplit : utf8 (front ++ [c]) = utf8 front ++ String.utf8EncodeChar c := by
        rw [utf8_append, utf8_singleton]
      by_cases hc : q c = true
      · obtain ⟨byte, hbyte, hdrop⟩ := (hq c).mp hc
        rw [List.rdropWhile_concat_pos _ _ _ hc, ← ih, hsplit, hbyte,
          List.rdropWhile_concat_pos _ _ _ hdrop]
      · rw [List.rdropWhile_concat_neg _ _ _ hc, List.rdropWhile_eq_self_iff, hsplit]
        intro hne hlast
        rw [List.getLast_append_of_ne_nil hne String.utf8EncodeChar_ne_nil] at hlast
        have hbyte := utf8EncodeChar_of_ascii (List.getLast_mem String.utf8EncodeChar_ne_nil)
          (hp _ hlast)
        exact hc ((hq c).mpr ⟨_, hbyte, hlast⟩)

end Support
