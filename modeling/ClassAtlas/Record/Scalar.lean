import ClassAtlas.Fault
import ClassAtlas.Json.Reader
import ClassAtlas.Text.Blank
import ClassAtlas.Text.Numerals

/-!
# Fields of a positional record

Each field of a positional record is a short text, and its first character says how the rest is to
be read: `T` and `F` are truth values, `[` opens a list with bars between its items, a brace opens
base64 of a JSON text, and everything else is a decimal number.  Nothing at all means that the field
is absent.  The closing bracket or brace may be left out, and lists drop their absent items.
-/

set_option autoImplicit false

namespace ClassAtlas.Record

open ClassAtlas.Text

/-- The text without one closing character at its end. -/
def dropClose (close : Char) (text : List Char) : List Char :=
  if text.getLast? = some close then text.dropLast else text

/-- The JSON value that base64 text spells. -/
def readPayload (body : List Char) : Except Fault Json :=
  match Base64.decode ((String.ofList body).toUTF8.toList.map (·.toNat)) with
  | .error flaw => .error (.base64 flaw)
  | .ok bytes =>
    match String.fromUTF8? (ByteArray.mk (bytes.map (·.toUInt8)).toArray) with
    | none => .error .malformed
    | some text =>
      match Json.ofText? text with
      | none => .error .malformed
      | some value => .ok value.canonical

theorem length_dropClose_le (close : Char) (text : List Char) :
    (dropClose close text).length ≤ text.length := by
  unfold dropClose
  split <;> simp

theorem length_trim_le (text : List Char) : (trim text).length ≤ text.length := by
  unfold trim trimEnd trimStart
  have inner : (text.dropWhile isBlank).length ≤ text.length :=
    (List.dropWhile_sublist _).length_le
  have outer : ((text.dropWhile isBlank).reverse.dropWhile isBlank).length ≤
      (text.dropWhile isBlank).reverse.length := (List.dropWhile_sublist _).length_le
  simp only [List.length_reverse] at outer ⊢
  omega

theorem length_le_of_mem_split {cuts : Char → Bool} {text piece : List Char}
    (h : piece ∈ split cuts text) : piece.length ≤ text.length := by
  induction text generalizing piece with
  | nil => simp_all [split]
  | cons c rest ih =>
    simp only [split] at h
    split at h
    · rcases List.mem_cons.1 h with rfl | h
      · simp
      · have := ih h
        simp only [List.length_cons]
        omega
    · split at h
      · simp_all
      · next first others heq =>
        rcases List.mem_cons.1 h with rfl | h
        · have : first ∈ split cuts rest := heq ▸ List.mem_cons_self
          have := ih this
          simp only [List.length_cons]
          omega
        · have : piece ∈ split cuts rest := heq ▸ List.mem_cons_of_mem _ h
          have := ih this
          simp only [List.length_cons]
          omega

/-- The value that a field spells, `none` if it is absent. -/
def readScalar (text : List Char) : Except Fault (Option Json) :=
  match h : trim text with
  | [] => .ok none
  | ['T'] => .ok (some (.bool true))
  | ['F'] => .ok (some (.bool false))
  | first :: body =>
    if first == '[' then do
      let items ← (split (· == '|') (dropClose ']' body)).attach.mapM fun ⟨piece, member⟩ =>
        have : piece.length < text.length := by
          have inner := length_le_of_mem_split member
          have middle := length_dropClose_le ']' body
          have outer := length_trim_le text
          rw [h] at outer
          simp only [List.length_cons] at outer
          omega
        readScalar piece
      return some (.array (items.filterMap id))
    else if first == '\x7b' then (readPayload (dropClose '\x7d' body)).map some
    else
      match readInt64 (String.ofList (first :: body)) with
      | some value => .ok (some (.int value))
      | none => .error (.decode (.scalar (String.ofList (first :: body))))
termination_by text.length

/-- The value that a field spells, `none` if it is absent. -/
def scalar (text : String) : Except Fault (Option Json) :=
  readScalar text.toList

end ClassAtlas.Record
