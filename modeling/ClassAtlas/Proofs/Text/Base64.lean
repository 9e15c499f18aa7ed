import ClassAtlas.Text.Base64
import Mathlib.Data.List.Basic

/-!
# Base64 is undone by its decoder

Bytes are read back from their base64 text (`decode_encode`).  The decoder treats the last group of
four symbols apart, as padding can stand only there, so the bytes are cut before their last one, two
or three: whole groups of three in front, and a last group that may be short.
-/

set_option autoImplicit false

namespace ClassAtlas.Base64

/-- Numbers below 256. -/
def AreBytes (bytes : List Nat) : Prop :=
  ∀ byte ∈ bytes, byte < 256

theorem AreBytes.of_append {front last : List Nat} (small : AreBytes (front ++ last)) :
    AreBytes front ∧ AreBytes last :=
  List.forall_mem_append.1 small

theorem AreBytes.of_group {a b c : Nat} {rest : List Nat} (small : AreBytes (a :: b :: c :: rest)) :
    a < 256 ∧ b < 256 ∧ c < 256 ∧ AreBytes rest := by
  simpa [AreBytes] using small

/-! ## Symbols -/

theorem symbolValue_symbol {value : Nat} (small : value < 64) :
    symbolValue (symbol value) = some value := by
  have all : ∀ value < 64, symbolValue (symbol value) = some value := by decide
  exact all value small

theorem symbol_ne_padding {value : Nat} (small : value < 64) :
    (symbol value != padding) = true := by
  have all : ∀ value < 64, (symbol value != padding) = true := by decide
  exact all value small

/-- Six-bit values are read back from their symbols. -/
theorem symbolValues_symbols {values : List Nat} (small : ∀ value ∈ values, value < 64)
    (offset : Nat) : symbolValues offset (values.map symbol) = .ok values := by
  induction values generalizing offset with
  | nil => rfl
  | cons value rest ih =>
    obtain ⟨first, small⟩ := List.forall_mem_cons.1 small
    rw [List.map_cons, symbolValues, symbolValue_symbol first, ih small]
    rfl

/-- The padding ends the symbols of a group. -/
theorem takeWhile_symbols {values : List Nat} (small : ∀ value ∈ values, value < 64) (pad : Nat) :
    (values.map symbol ++ List.replicate pad padding).takeWhile (· != padding) =
      values.map symbol := by
  have symbols : ∀ code ∈ values.map symbol, (code != padding) = true := by
    simp only [List.mem_map, forall_exists_index, and_imp, forall_apply_eq_imp_iff₂]
    exact fun value member => symbol_ne_padding (small value member)
  rw [List.takeWhile_append_of_pos symbols]
  cases pad <;> simp [List.replicate_succ]

/-! ## Whole groups -/

/-- Whole groups of three bytes make whole groups of four symbols. -/
theorem encode_append {front : List Nat} (whole : 3 ∣ front.length) (last : List Nat) :
    encode (front ++ last) = encode front ++ encode last ∧
      (encode front).length = front.length / 3 * 4 := by
  fun_induction encode front with
  | case1 => simp
  | case2 a => simp at whole
  | case3 a b => simp at whole
  | case4 a b c rest ih =>
    simp only [List.length_cons] at whole ⊢
    obtain ⟨joined, length⟩ := ih (by omega)
    refine ⟨?_, by omega⟩
    simp only [List.cons_append, encode, joined]

/-- The symbols of whole groups spell their bytes. -/
theorem groupBytes_encode {front : List Nat} (whole : 3 ∣ front.length) (small : AreBytes front) :
    ∃ values, (∀ value ∈ values, value < 64) ∧ encode front = values.map symbol ∧
      groupBytes values = front := by
  fun_induction encode front with
  | case1 => exact ⟨[], by simp, rfl, rfl⟩
  | case2 a => simp at whole
  | case3 a b => simp at whole
  | case4 a b c rest ih =>
    obtain ⟨ha, hb, hc, small⟩ := small.of_group
    obtain ⟨values, bits, symbols, bytes⟩ := ih (by simp only [List.length_cons] at whole; omega)
      small
    refine ⟨a / 4 :: (a % 4 * 16 + b / 16) :: (b % 16 * 4 + c / 64) :: c % 64 :: values, ?_, ?_, ?_⟩
    · simp only [List.forall_mem_cons]
      exact ⟨by omega, by omega, by omega, by omega, bits⟩
    · rw [symbols]
      rfl
    · simp only [groupBytes, bytes]
      have highest : (((a / 4 * 64 + (a % 4 * 16 + b / 16)) * 64 + (b % 16 * 4 + c / 64)) * 64 +
          c % 64) = a * 65536 + b * 256 + c := by omega
      rw [highest, show (a * 65536 + b * 256 + c) / 65536 = a by omega,
        show (a * 65536 + b * 256 + c) / 256 % 256 = b by omega,
        show (a * 65536 + b * 256 + c) % 256 = c by omega]

/-! ## The last group -/

/-- One, two or three bytes are read back from their group. -/
theorem lastGroup_encode {last : List Nat} (nonempty : last ≠ []) (short : last.length ≤ 3)
    (small : AreBytes last) (offset : Nat) :
    (encode last).length = 4 ∧ lastGroup offset (encode last) = .ok last := by
  fun_cases encode last with
  | case1 => exact absurd rfl nonempty
  | case2 a =>
    have ha : a < 256 := small a (by simp)
    have bits : ∀ value ∈ [a / 4, a % 4 * 16], value < 64 := by simp; omega
    refine ⟨rfl, ?_⟩
    rw [show [symbol (a / 4), symbol (a % 4 * 16), padding, padding] =
      [a / 4, a % 4 * 16].map symbol ++ List.replicate 2 padding from rfl, lastGroup,
      takeWhile_symbols bits, symbolValues_symbols bits]
    have byte : a / 4 * 4 + a % 4 = a := by omega
    simp [byte]
  | case3 a b =>
    have ha : a < 256 := small a (by simp)
    have hb : b < 256 := small b (by simp)
    have bits : ∀ value ∈ [a / 4, a % 4 * 16 + b / 16, b % 16 * 4], value < 64 := by simp; omega
    refine ⟨rfl, ?_⟩
    rw [show [symbol (a / 4), symbol (a % 4 * 16 + b / 16), symbol (b % 16 * 4), padding] =
      [a / 4, a % 4 * 16 + b / 16, b % 16 * 4].map symbol ++ List.replicate 1 padding from rfl,
      lastGroup, takeWhile_symbols bits, symbolValues_symbols bits]
    have first : a / 4 * 4 + (a % 4 * 16 + b / 16) / 16 = a := by omega
    have second : b / 16 % 16 * 16 + b % 16 = b := by omega
    have rest : b % 16 * 4 % 4 = 0 := by omega
    simp [first, second, rest]
  | case4 a b c rest =>
    simp only [List.length_cons] at short
    have alone : rest = [] := List.length_eq_zero_iff.1 (by omega)
    subst alone
    have whole : 3 ∣ [a, b, c].length := Nat.dvd_refl 3
    obtain ⟨values, bits, symbols, bytes⟩ := groupBytes_encode whole small
    have four : values.length = 4 := by rw [← List.length_map symbol, ← symbols]; rfl
    obtain ⟨w, x, y, z, rfl⟩ := List.length_eq_four.1 four
    refine ⟨rfl, ?_⟩
    have written : encode [a, b, c] = [w, x, y, z].map symbol ++ List.replicate 0 padding := symbols
    change lastGroup offset (encode [a, b, c]) = _
    rw [written, lastGroup, takeWhile_symbols bits, symbolValues_symbols bits]
    simp [bytes]

/-! ## All bytes -/

/-- Bytes are whole groups of three and a last group of at most three. -/
theorem exists_last_group {bytes : List Nat} (nonempty : bytes ≠ []) :
    ∃ front last, bytes = front ++ last ∧ 3 ∣ front.length ∧ last ≠ [] ∧ last.length ≤ 3 := by
  have positive := List.length_pos_iff.2 nonempty
  have cut : ((bytes.length - 1) / 3 * 3) < bytes.length := by omega
  refine ⟨bytes.take ((bytes.length - 1) / 3 * 3), bytes.drop ((bytes.length - 1) / 3 * 3),
    (List.take_append_drop _ _).symm, ?_, ?_, ?_⟩
  · rw [List.length_take, Nat.min_eq_left (Nat.le_of_lt cut)]
    exact Nat.dvd_mul_left 3 _
  · simpa using cut
  · rw [List.length_drop]
    omega

/-- **Bytes are read back from their base64 text.** -/
theorem decode_encode {bytes : List Nat} (small : AreBytes bytes) :
    decode (encode bytes) = .ok bytes := by
  by_cases empty : bytes = []
  · rw [empty]
    rfl
  · obtain ⟨front, last, rfl, whole, lastNonempty, short⟩ := exists_last_group empty
    obtain ⟨frontSmall, lastSmall⟩ := small.of_append
    obtain ⟨joined, frontLength⟩ := encode_append whole last
    obtain ⟨lastLength, read⟩ := lastGroup_encode lastNonempty short lastSmall (encode front).length
    obtain ⟨values, bits, symbols, groups⟩ := groupBytes_encode whole frontSmall
    have length : (encode front ++ encode last).length = front.length / 3 * 4 + 4 := by
      rw [List.length_append, frontLength, lastLength]
    have complete : ((encode front ++ encode last).length - 1) / 4 * 4 = (encode front).length := by
      omega
    have written : (encode front ++ encode last).isEmpty = false := by
      rw [List.isEmpty_eq_false_iff, ← List.length_pos_iff]
      omega
    rw [joined, decode, written]
    simp only [Bool.false_eq_true, ↓reduceIte]
    rw [if_neg (by omega), complete, List.take_left, List.drop_left, read, symbols,
      symbolValues_symbols bits]
    simp only [Except.map, groups]

/-! ## Texts -/

/-- The bytes of a text in UTF-8. -/
def utf8 (text : String) : List Nat :=
  text.toUTF8.toList.map (·.toNat)

/-- The base64 text of a text. -/
def ofText (text : String) : List Char :=
  (encode (utf8 text)).map Char.ofNat

theorem toList_loop (bytes : ByteArray) (position : Nat) (before : List UInt8) :
    ByteArray.toList.loop bytes position before =
      before.reverse ++ bytes.data.toList.drop position := by
  fun_induction ByteArray.toList.loop bytes position before with
  | case1 position before inside ih =>
    have here : position < bytes.data.toList.length := inside
    rw [ih, List.drop_eq_getElem_cons here]
    simp [ByteArray.get!, getElem!_pos bytes.data position inside]
  | case2 position before outside =>
    rw [List.drop_eq_nil_of_le (Nat.le_of_not_lt outside), List.append_nil]

theorem toList_eq_data (bytes : ByteArray) : bytes.toList = bytes.data.toList :=
  toList_loop bytes 0 []

theorem areBytes_utf8 (text : String) : AreBytes (utf8 text) := by
  intro byte listed
  obtain ⟨code, -, rfl⟩ := List.mem_map.1 listed
  exact code.toNat_lt

/-- A text is what its bytes spell. -/
theorem fromUTF8?_utf8 (text : String) :
    String.fromUTF8? (ByteArray.mk ((utf8 text).map (·.toUInt8)).toArray) = some text := by
  have bytes : ByteArray.mk ((utf8 text).map (·.toUInt8)).toArray = text.toByteArray := by
    simp [utf8, toList_eq_data, Function.comp_def]
  rw [bytes, String.fromUTF8?, dif_pos text.isValidUTF8]
  rfl

/-- ASCII characters are their own bytes. -/
theorem utf8_ofList {codes : List Nat} (ascii : ∀ code ∈ codes, code < 128) :
    utf8 (String.ofList (codes.map Char.ofNat)) = codes := by
  have bytes : utf8 (String.ofList (codes.map Char.ofNat)) =
      ((codes.map Char.ofNat).flatMap String.utf8EncodeChar).map (·.toNat) := by
    simp [utf8, toList_eq_data, List.utf8Encode]
  rw [bytes]
  clear bytes
  induction codes with
  | nil => rfl
  | cons code rest ih =>
    obtain ⟨small, ascii⟩ := List.forall_mem_cons.1 ascii
    have one : ∀ code < 128, (String.utf8EncodeChar (Char.ofNat code)).map (·.toNat) = [code] := by
      decide +kernel
    rw [List.map_cons, List.flatMap_cons, List.map_append, one code small, ih ascii]
    rfl

/-- The characters of base64 texts are letters, digits, plus signs, strokes and equals signs. -/
theorem range_of_mem_encode {bytes : List Nat} (small : AreBytes bytes) :
    ∀ code ∈ encode bytes, 43 ≤ code ∧ code ≤ 122 ∧ code ≠ 44 := by
  have symbols : ∀ value < 64, 43 ≤ symbol value ∧ symbol value ≤ 122 ∧ symbol value ≠ 44 := by
    decide
  fun_induction encode bytes with
  | case1 => simp
  | case2 a =>
    have ha : a < 256 := small a (by simp)
    simp only [List.forall_mem_cons]
    exact ⟨symbols _ (by omega), symbols _ (by omega), by decide, by decide, by simp⟩
  | case3 a b =>
    have ha : a < 256 := small a (by simp)
    have hb : b < 256 := small b (by simp)
    simp only [List.forall_mem_cons]
    exact ⟨symbols _ (by omega), symbols _ (by omega), symbols _ (by omega), by decide, by simp⟩
  | case4 a b c rest ih =>
    obtain ⟨ha, hb, hc, small⟩ := small.of_group
    simp only [List.forall_mem_cons]
    exact ⟨symbols _ (by omega), symbols _ (by omega), symbols _ (by omega),
      symbols _ (by omega), ih small⟩

/-- **The base64 text of a text spells the bytes of that text.** -/
theorem decode_ofText (text : String) :
    decode (utf8 (String.ofList (ofText text))) = .ok (utf8 text) := by
  have small := areBytes_utf8 text
  have ascii : ∀ code ∈ encode (utf8 text), code < 128 := fun code listed =>
    Nat.lt_of_le_of_lt (range_of_mem_encode small code listed).2.1 (by decide)
  rw [ofText, utf8_ofList ascii, decode_encode small]

theorem comma_not_mem_ofText (text : String) : ',' ∉ ofText text := by
  intro comma
  obtain ⟨code, listed, same⟩ := List.mem_map.1 comma
  obtain ⟨-, small, other⟩ := range_of_mem_encode (areBytes_utf8 text) code listed
  have characters : ∀ code ≤ 122, Char.ofNat code = ',' → code = 44 := by decide
  exact other (characters code small same)

end ClassAtlas.Base64
