import ClassAtlas.Proofs.Json.Reading
import ClassAtlas.Proofs.Outcome
import ClassAtlas.Proofs.Text.Base64
import ClassAtlas.Proofs.Text.Pieces
import ClassAtlas.Record.Scalar

/-!
# Entries of a positional record

A record says three kinds of things under its keys: numbers, lists of numbers and texts (`Entry`).
Each is written into a field of a positional text in a form of its own, and is read back from there
(`scalar_written`).  No written form holds a comma, so the fields stay apart.
-/

set_option autoImplicit false

namespace ClassAtlas.Record

open ClassAtlas.Text (split trim isBlank isDigit)

/-- What a record says under one of its keys. -/
inductive Entry where
  | number (value : Nat)
  | list (values : List Nat)
  | literal (text : String)
  deriving DecidableEq, Repr

namespace Entry

/-- Whether all numbers have 32 bits. -/
def InRange : Entry → Prop
  | .number value => value < limit32
  | .list values => ∀ value ∈ values, value < limit32
  | .literal _ => True

instance : DecidablePred InRange
  | .number value => inferInstanceAs (Decidable (value < limit32))
  | .list values => inferInstanceAs (Decidable (∀ value ∈ values, value < limit32))
  | .literal _ => inferInstanceAs (Decidable True)

/-- The JSON form. -/
def toJson : Entry → Json
  | .number value => .nat value
  | .list values => .ofList .nat values
  | .literal text => .text text

/-- The form in a field of a positional text. -/
def chars : Entry → List Char
  | .number value => Nat.toDigits 10 value
  | .list values => '[' :: (['|'].intercalate (values.map (Nat.toDigits 10)) ++ [']'])
  | .literal text => '\x7b' :: (Base64.ofText (Json.text text).compact ++ ['\x7d'])

/-- The form in a field of a positional text. -/
def written (entry : Entry) : String :=
  String.ofList entry.chars

end Entry

/-! ## Reading -/

theorem readScalar_nil : readScalar [] = .ok none := by
  rw [readScalar]
  rfl

/-- What the first character of a field that is no truth value says. -/
theorem readScalar_cons {text body : List Char} {first : Char}
    (trimmed : trim text = first :: body) (notTrue : first ≠ 'T') (notFalse : first ≠ 'F') :
    readScalar text =
      if first = '[' then do
        let items ← (split (· == '|') (dropClose ']' body)).mapM readScalar
        return some (.array (items.filterMap id))
      else if first = '\x7b' then (readPayload (dropClose '\x7d' body)).map some
      else
        match Text.readInt64 (String.ofList (first :: body)) with
        | some value => .ok (some (.int value))
        | none => .error (.decode (.scalar (String.ofList (first :: body)))) := by
  rw [readScalar]
  split
  · next cut => cases trimmed.symm.trans cut
  · next cut => exact absurd (List.cons.inj (trimmed.symm.trans cut)).1 notTrue
  · next cut => exact absurd (List.cons.inj (trimmed.symm.trans cut)).1 notFalse
  · next head rest _ _ cut =>
    obtain ⟨rfl, rfl⟩ := List.cons.inj (trimmed.symm.trans cut)
    rw [List.mapM_subtype (g := readScalar) fun _ _ => rfl, List.unattach_attach]
    exact if_congr beq_iff_eq rfl (if_congr beq_iff_eq rfl rfl)

theorem dropClose_concat (close : Char) (text : List Char) :
    dropClose close (text ++ [close]) = text := by
  simp [dropClose]

/-- A number is read from its digits. -/
theorem readScalar_digits {value : Nat} (below : value < limit63) :
    readScalar (Nat.toDigits 10 value) = .ok (some (.nat value)) := by
  have visible : ∀ c ∈ Nat.toDigits 10 value, isBlank c = false := fun c listed =>
    Text.isBlank_of_isDigit (Text.isDigit_of_mem_toDigits listed)
  have trimmed : trim (Nat.toDigits 10 value) = Nat.toDigits 10 value :=
    Text.trim_eq_self (fun c first => visible c (List.mem_of_head? first))
      fun c last => visible c (List.mem_of_getLast? last)
  obtain ⟨first, rest, digits⟩ : ∃ first rest, Nat.toDigits 10 value = first :: rest :=
    List.exists_cons_of_ne_nil Nat.toDigits_ne_nil
  have listed : first ∈ Nat.toDigits 10 value := digits ▸ List.mem_cons_self
  have digit := Text.isDigit_of_mem_toDigits listed
  have apart : ∀ c, isDigit c = false → first ≠ c := by
    rintro c other rfl
    exact Bool.false_ne_true (other.symm.trans digit)
  rw [readScalar_cons (trimmed.trans digits) (apart 'T' (by decide)) (apart 'F' (by decide)),
    if_neg (apart '[' (by decide)), if_neg (apart '\x7b' (by decide)), ← digits,
    ← Text.toList_toString, String.ofList_toList, Text.readInt64_toString below]
  rfl

/-- A list is read from its items between brackets. -/
theorem readScalar_bracketed {values : List Nat} (below : ∀ value ∈ values, value < limit63) :
    readScalar ('[' :: (['|'].intercalate (values.map (Nat.toDigits 10)) ++ [']'])) =
      .ok (some (.ofList .nat values)) := by
  have trimmed := Text.trim_enclosed (by decide : isBlank '[' = false)
    (by decide : isBlank ']' = false) (['|'].intercalate (values.map (Nat.toDigits 10)))
  rw [readScalar_cons trimmed (by decide) (by decide), if_pos rfl, dropClose_concat]
  by_cases empty : values = []
  · subst empty
    simp [split, readScalar_nil, Json.ofList]
  · have clean : ∀ part ∈ values.map (Nat.toDigits 10), '|' ∉ part := by
      simp only [List.mem_map, forall_exists_index, and_imp, forall_apply_eq_imp_iff₂]
      exact fun value _ bar => absurd (Text.isDigit_of_mem_toDigits bar) (by decide)
    have items : (values.map (Nat.toDigits 10)).mapM readScalar =
        .ok (values.map fun value => some (.nat value)) := by
      rw [List.mapM_map]
      exact Outcome.mapM_eq_ok fun value listed => readScalar_digits (below value listed)
    rw [Text.split_intercalate (by simpa using empty) clean, items]
    simp [Json.ofList]

theorem readPayload_ofText (text : String) :
    readPayload (Base64.ofText (Json.text text).compact) = .ok (.text text) := by
  have bytes := Base64.decode_ofText (Json.text text).compact
  rw [Base64.utf8] at bytes
  rw [readPayload, bytes]
  simp only [Base64.fromUTF8?_utf8, Json.ofText?_compact (.text _ _), Json.canonical]

/-- **An entry is read back from its written form.** -/
theorem scalar_written {entry : Entry} (inRange : entry.InRange) :
    scalar entry.written = .ok (some entry.toJson) := by
  have wide : ∀ value < limit32, value < limit63 := fun value small =>
    Nat.lt_trans small (by decide)
  rw [scalar, Entry.written, String.toList_ofList]
  cases entry with
  | number value => exact readScalar_digits (wide value inRange)
  | list values => exact readScalar_bracketed fun value listed => wide value (inRange value listed)
  | literal text =>
    have trimmed := Text.trim_enclosed (by decide : isBlank '\x7b' = false)
      (by decide : isBlank '\x7d' = false) (Base64.ofText (Json.text text).compact)
    rw [Entry.chars, readScalar_cons trimmed (by decide) (by decide), if_neg (by decide),
      if_pos rfl, dropClose_concat, readPayload_ofText]
    rfl

/-- The fields of a positional text stay apart. -/
theorem Entry.comma_not_mem (entry : Entry) : ',' ∉ entry.written.toList := by
  have digits : ∀ value, ',' ∉ Nat.toDigits 10 value := fun value comma =>
    absurd (Text.isDigit_of_mem_toDigits comma) (by decide)
  rw [written, String.toList_ofList]
  cases entry with
  | number value => exact digits value
  | list values =>
    have items : ',' ∉ ['|'].intercalate (values.map (Nat.toDigits 10)) := by
      intro comma
      rcases Text.mem_or_mem_of_mem_intercalate comma with bar | ⟨part, listed, inside⟩
      · exact absurd bar (by decide)
      · obtain ⟨value, -, rfl⟩ := List.mem_map.1 listed
        exact digits value inside
    simp [chars, items]
  | literal text => simp [chars, Base64.comma_not_mem_ofText]

end ClassAtlas.Record
