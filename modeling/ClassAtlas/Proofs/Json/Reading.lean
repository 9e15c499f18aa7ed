import ClassAtlas.Json.Document
import ClassAtlas.Json.Printer
import ClassAtlas.Text.Numerals
import Mathlib.Data.List.Basic

/-!
# Reading what was written

A value that is spelled without blanks is read back as it was (`ofText?_compact`).  This holds of
every value whose numbers are whole, as far as 64 bits go, and which has no more than 127 lists and
objects around any of its parts (`Spelled`).  Texts may hold any character, in keys as in values.
It holds of documents as well, where all members of the object are known (`ofDocument?_compact`).

The reader gets one part of the spelling at a time, with all that follows it.  A part ends by itself
or at the character after it, so the lemma of each part holds whatever follows, as long as it is the
end, a comma or a closing bracket (`Stops`).
-/

set_option autoImplicit false

namespace ClassAtlas

/-! ## Decimal digits -/

namespace Text

/-- The number that digits spell after others that spell `value`. -/
def digitsAfter (value : Nat) (digits : List Char) : Nat :=
  digits.foldl (fun value c => value * 10 + digitValue c) value

theorem digitsAfter_toDigits (value : Nat) : digitsAfter 0 (Nat.toDigits 10 value) = value := by
  have spelled := Nat.ofDigitChars_ten_toDigits (n := value)
  simpa only [Nat.ofDigitChars_eq_foldl, digitsAfter, digitValue, Nat.mul_comm 10,
    show '0'.toNat = 48 from rfl] using spelled

theorem le_digitsAfter (value : Nat) (digits : List Char) : value ≤ digitsAfter value digits := by
  induction digits generalizing value with
  | nil => exact Nat.le_refl value
  | cons c rest ih =>
    have grown : value * 10 + digitValue c ≤ digitsAfter value (c :: rest) := ih _
    omega

theorem isDigit_of_mem_toDigits {value : Nat} {c : Char} (member : c ∈ Nat.toDigits 10 value) :
    isDigit c = true := by
  have digit := Nat.isDigit_of_mem_toDigits (by decide) (by decide) member
  simpa [isDigit, Char.isDigit, Char.le_def] using digit

theorem toList_toString (value : Nat) : (toString value).toList = Nat.toDigits 10 value := by
  simp

theorem unsignedValue_toDigits (value : Nat) :
    unsignedValue (Nat.toDigits 10 value) = some value := by
  have digits : ∀ c ∈ Nat.toDigits 10 value, isDigit c = true := fun c =>
    isDigit_of_mem_toDigits
  have spelled := digitsAfter_toDigits value
  rw [digitsAfter] at spelled
  simp [unsignedValue, digitsValue, List.all_eq_true.2 digits, spelled]

/-- The digits of a number start with no sign. -/
theorem toDigits_ne_cons {c : Char} (sign : isDigit c = false) (value : Nat) (rest : List Char) :
    Nat.toDigits 10 value ≠ c :: rest := by
  intro same
  have listed : c ∈ Nat.toDigits 10 value := same ▸ List.mem_cons_self
  exact Bool.false_ne_true (sign.symm.trans (isDigit_of_mem_toDigits listed))

/-- A number is read from its decimal digits if it is below the bound. -/
theorem readNat_toString {bound value : Nat} (below : value < bound) :
    readNat bound (toString value) = some value := by
  have plain := toDigits_ne_cons (c := '+') (by decide) value
  rw [readNat, toList_toString]
  simp [unsignedValue_toDigits, below]

theorem readInt64_toString {value : Nat} (below : value < limit63) :
    readInt64 (toString value) = some (.ofNat value) := by
  have positive := toDigits_ne_cons (c := '+') (by decide) value
  have negative := toDigits_ne_cons (c := '-') (by decide) value
  rw [readInt64, toList_toString]
  simp [unsignedValue_toDigits, below]

end Text

namespace Json

open ClassAtlas.Text (isDigit digitValue digitsAfter)

/-! ## Texts -/

theorem readText_escape {text after : List Char} {c : Char}
    (escape : readEscape text = some (c, after)) :
    readText ('\\' :: text) = (readText after).map fun (chars, rest) => (c :: chars, rest) := by
  rw [readText]
  simp only [Char.reduceBEq, Bool.false_eq_true, ↓reduceIte]
  split
  · next none => simp [escape] at none
  · next escaped rest some =>
    obtain ⟨rfl, rfl⟩ : c = escaped ∧ after = rest := by simpa [escape] using some
    rfl

theorem hexValue_digitChar : ∀ digit < 16, hexValue (Nat.digitChar digit) = some digit := by
  decide

theorem hexDigits_of_lt {value : Nat} (below : value < 16) :
    Text.hexDigits value = [Nat.digitChar value] :=
  Nat.toDigits_of_lt_base below

/-- The escape of a control character by its number. -/
theorem readEscape_unit {text after : List Char} {c : Char} (control : c.toNat < 32)
    (unit : readUnit text = some (c.toNat, after)) :
    readEscape ('u' :: text) = some (c, after) := by
  simp only [readEscape, unit]
  rw [if_neg (by omega), if_neg (by omega), Char.ofNat_toNat]

/-- Every character is read back from its spelling inside a text. -/
theorem readText_escapeChar (c : Char) (text : List Char) :
    readText (escapeChar c ++ text) =
      (readText text).map fun (chars, rest) => (c :: chars, rest) := by
  fun_cases escapeChar c with
  | case1 quote => exact readText_escape (by rw [eq_of_beq quote]; rfl)
  | case2 _ backslash => exact readText_escape (by rw [eq_of_beq backslash]; rfl)
  | case3 _ _ newline => exact readText_escape (by rw [eq_of_beq newline]; rfl)
  | case4 _ _ _ carriage => exact readText_escape (by rw [eq_of_beq carriage]; rfl)
  | case5 _ _ _ _ tab => exact readText_escape (by rw [eq_of_beq tab]; rfl)
  | case6 _ _ _ _ _ backspace =>
    refine readText_escape ?_
    rw [← Char.ofNat_toNat c, eq_of_beq backspace]
    rfl
  | case7 _ _ _ _ _ _ feed =>
    refine readText_escape ?_
    rw [← Char.ofNat_toNat c, eq_of_beq feed]
    rfl
  | case8 _ _ _ _ _ _ _ low =>
    rw [hexDigits_of_lt low]
    refine readText_escape (readEscape_unit (by omega) ?_)
    simp [readUnit, hexValue_digitChar _ low, show hexValue '0' = some 0 by decide]
  | case9 _ _ _ _ _ _ _ _ high =>
    have digits : Text.hexDigits c.toNat = ['1', Nat.digitChar (c.toNat - 16)] := by
      rw [Text.hexDigits, Nat.toDigits_of_base_le (by decide) (by omega),
        show c.toNat / 16 = 1 by omega, show c.toNat % 16 = c.toNat - 16 by omega]
      rfl
    rw [digits]
    refine readText_escape (readEscape_unit (by omega) ?_)
    simp [readUnit, hexValue_digitChar (c.toNat - 16) (by omega),
      show hexValue '0' = some 0 by decide, show hexValue '1' = some 1 by decide]
    omega
  | case10 quote backslash _ _ _ _ _ _ visible =>
    rw [List.singleton_append, readText, if_neg quote, if_neg backslash, if_neg visible]

theorem readText_flatMap_escapeChar (chars text : List Char) :
    readText (chars.flatMap escapeChar ++ '"' :: text) = some (chars, text) := by
  induction chars with
  | nil => simp [readText]
  | cons c rest ih =>
    rw [List.flatMap_cons, List.append_assoc, readText_escapeChar, ih]
    rfl

/-! ## What follows a part -/

/-- What may follow a value: nothing, a comma or a closing bracket. -/
def Stops (rest : List Char) : Prop :=
  ∀ c ∈ rest.head?, c = ',' ∨ c = ']' ∨ c = '\x7d'

/-- A part that starts visibly, and not with a closing bracket. -/
def Opens (part : List Char) : Prop :=
  ∃ c rest, part = c :: rest ∧ isSpace c = false ∧ c ≠ ']' ∧ c ≠ '\x7d'

theorem skipSpace_of_opens {part : List Char} (opens : Opens part) (rest : List Char) :
    skipSpace (part ++ rest) = part ++ rest := by
  obtain ⟨c, more, rfl, visible, -⟩ := opens
  simp [skipSpace, visible]

theorem Stops.comma (rest : List Char) : Stops (',' :: rest) := by
  simp [Stops]

/-! ## Numbers -/

theorem absorb_of_lt {value : Nat} {digits : List Char}
    (below : digitsAfter value digits < limit64) :
    absorb value digits = (digitsAfter value digits, 0) := by
  induction digits generalizing value with
  | nil => rfl
  | cons c rest ih =>
    have grown := Text.le_digitsAfter (value * 10 + digitValue c) rest
    have tail : digitsAfter (value * 10 + digitValue c) rest < limit64 := below
    rw [absorb, if_pos (by omega), ih tail]
    rfl

/-- Of the digits of a number only those of zero start with a zero. -/
theorem head?_toDigits_ne_zero {value : Nat} (positive : 0 < value) :
    (Nat.toDigits 10 value).head? ≠ some '0' := by
  induction value using Nat.strongRecOn with
  | ind value ih =>
    by_cases small : value < 10
    · rw [Nat.toDigits_of_lt_base small]
      simp
      omega
    · rw [Nat.toDigits_of_base_le (by decide) (by omega), List.head?_append]
      have front := ih (value / 10) (by omega) (by omega)
      rw [List.head?_eq_some_head Nat.toDigits_ne_nil] at front ⊢
      simpa using front

theorem not_isDigit_of_stops {rest : List Char} (stops : Stops rest) (c : Char)
    (first : c ∈ rest.head?) : isDigit c = false := by
  rcases stops c first with rfl | rfl | rfl <;> decide

theorem takeWhile_toDigits {value : Nat} {rest : List Char} (stops : Stops rest) :
    (Nat.toDigits 10 value ++ rest).takeWhile isDigit = Nat.toDigits 10 value := by
  rw [List.takeWhile_append_of_pos fun c => Text.isDigit_of_mem_toDigits]
  cases rest with
  | nil => simp
  | cons c more => simp [not_isDigit_of_stops stops c rfl]

theorem readFraction_of_stops {rest : List Char} (stops : Stops rest) :
    readFraction rest = some ([], rest) := by
  unfold readFraction
  split
  · exact absurd (stops '.' rfl) (by decide)
  · rfl

theorem readExponent_of_stops {rest : List Char} (stops : Stops rest) :
    readExponent rest = some (none, rest) := by
  cases rest with
  | nil => rfl
  | cons c more => rcases stops c rfl with rfl | rfl | rfl <;> rfl

theorem leading_toDigits (value : Nat) :
    ¬((Nat.toDigits 10 value).head? = some '0' ∧ (Nat.toDigits 10 value).length ≠ 1) := by
  rintro ⟨zero, long⟩
  rcases Nat.eq_zero_or_pos value with rfl | positive
  · exact long rfl
  · exact head?_toDigits_ne_zero positive zero

/-- The digits of a number make a numeral without fraction and exponent. -/
theorem readNumeral_toDigits (value : Nat) {rest : List Char} (stops : Stops rest) :
    readNumeral (Nat.toDigits 10 value ++ rest) =
      some (⟨false, Nat.toDigits 10 value, [], none⟩, rest) := by
  have unsigned : ∀ more, Nat.toDigits 10 value ++ rest ≠ '-' :: more := by
    intro more same
    have first := congrArg List.head? same
    rw [List.head?_append, List.head?_eq_some_head Nat.toDigits_ne_nil] at first
    have digit := Text.isDigit_of_mem_toDigits (List.head_mem (Nat.toDigits_ne_nil (n := value)))
    rw [Option.some.inj first] at digit
    exact absurd digit (by decide)
  unfold readNumeral
  split
  next negative text sign =>
  split at sign
  · next more minus => exact absurd minus (unsigned more)
  · obtain ⟨rfl, rfl⟩ := Prod.mk.inj sign
    simp only [takeWhile_toDigits stops, List.isEmpty_iff, Nat.toDigits_ne_nil, ↓reduceIte,
      leading_toDigits, List.drop_left, readFraction_of_stops stops]
    simp [readExponent_of_stops stops]

/-- A numeral with a minus sign before it. -/
theorem readNumeral_minus (value : Nat) {rest : List Char} (stops : Stops rest) :
    readNumeral ('-' :: (Nat.toDigits 10 value ++ rest)) =
      some (⟨true, Nat.toDigits 10 value, [], none⟩, rest) := by
  unfold readNumeral
  simp only [takeWhile_toDigits stops, List.isEmpty_iff, Nat.toDigits_ne_nil, ↓reduceIte,
    leading_toDigits, List.drop_left, readFraction_of_stops stops]
  simp [readExponent_of_stops stops]

/-- A whole number within 64 bits. -/
def Whole : JsonNumber → Prop
  | .natural value => value < limit64
  | .negative magnitude => 0 < magnitude ∧ magnitude ≤ limit63
  | .real _ => False

theorem readNumber_toText {number : JsonNumber} (whole : Whole number) {rest : List Char}
    (stops : Stops rest) : readNumber (number.toText.toList ++ rest) = some (number, rest) := by
  have absorbed : ∀ value < limit64, absorb 0 (Nat.toDigits 10 value) = (value, 0) := by
    intro value below
    rw [absorb_of_lt (by rwa [Text.digitsAfter_toDigits]), Text.digitsAfter_toDigits]
  cases number with
  | natural value =>
    rw [JsonNumber.toText, Text.toList_toString, readNumber, readNumeral_toDigits value stops]
    simp [Numeral.number?, absorbed value whole]
  | negative magnitude =>
    obtain ⟨positive, small⟩ := whole
    have below : magnitude < limit64 := Nat.lt_of_le_of_lt small (by decide)
    rw [JsonNumber.toText, String.toList_append, Text.toList_toString, readNumber]
    rw [show "-".toList = ['-'] from rfl, List.singleton_append, List.cons_append]
    rw [readNumeral_minus magnitude stops]
    simp [Numeral.number?, absorbed magnitude below, small, Nat.ne_of_gt positive]
  | real value => exact whole.elim

/-! ## Lists of parts -/

/-- Parts that follow others, each after a comma. -/
def followed (parts : List (List Char)) : List Char :=
  parts.flatMap (',' :: ·)

theorem length_le_length_followed (parts : List (List Char)) :
    parts.length ≤ (followed parts).length := by
  induction parts with
  | nil => exact Nat.le_refl 0
  | cons part rest ih =>
    rw [followed, List.flatMap_cons, List.length_append, ← followed]
    simp only [List.length_cons]
    omega

theorem separated_cons (first : List Char) (others : List (List Char)) :
    separated [','] (first :: others) = first ++ followed others := by
  induction others generalizing first with
  | nil => simp [separated, followed]
  | cons second others ih =>
    rw [separated, ih, followed, followed, List.flatMap_cons]
    simp

/-- A part is the spelling of a value, whatever follows. -/
def Spells {α : Type} (item : List Char → Option (α × List Char)) (part : List Char) (value : α) :
    Prop :=
  Opens part ∧ ∀ rest, Stops rest → item (part ++ rest) = some (value, rest)

section

variable {α : Type} {item : List Char → Option (α × List Char)} {close : Char}
  {spelling : α → List Char} {values : List α}

theorem stops_followed (closes : close = ']' ∨ close = '\x7d') (parts : List (List Char))
    (rest : List Char) : Stops (followed parts ++ close :: rest) := by
  cases parts with
  | nil => rcases closes with rfl | rfl <;> simp [Stops, followed]
  | cons first others => exact Stops.comma _

theorem readTail_followed (closes : close = ']' ∨ close = '\x7d')
    (spelled : ∀ value ∈ values, Spells item (spelling value) value) (steps : Nat)
    (enough : values.length < steps) (rest : List Char) :
    readTail close item steps (followed (values.map spelling) ++ close :: rest) =
      some (values, rest) := by
  obtain ⟨steps, rfl⟩ : ∃ more, steps = more + 1 := ⟨steps - 1, by omega⟩
  induction values generalizing steps with
  | nil => rcases closes with rfl | rfl <;> simp [readTail, followed, skipSpace, isSpace]
  | cons first others ih =>
    obtain ⟨steps, rfl⟩ : ∃ more, steps = more + 1 := ⟨steps - 1, by simp at enough; omega⟩
    have tail := ih (fun value member => spelled value (List.mem_cons_of_mem _ member)) steps
      (by simpa using enough)
    have read := (spelled first List.mem_cons_self).2 _
      (stops_followed closes (others.map spelling) rest)
    have comma : (',' == close) = false := by rcases closes with rfl | rfl <;> rfl
    have visible : skipSpace (',' :: (spelling first ++
        (followed (others.map spelling) ++ close :: rest))) = ',' :: _ := rfl
    rw [List.map_cons, followed, List.flatMap_cons, ← followed, List.append_assoc,
      List.cons_append, readTail, visible]
    simp only [comma, Bool.false_eq_true, ↓reduceIte, beq_self_eq_true, read, tail,
      Option.bind_eq_bind, Option.bind_some, Option.pure_def]

/-- Items are read back from their spellings between brackets. -/
theorem readItems_separated (closes : close = ']' ∨ close = '\x7d')
    (spelled : ∀ value ∈ values, Spells item (spelling value) value) (rest : List Char) :
    readItems close item (separated [','] (values.map spelling) ++ close :: rest) =
      some (values, rest) := by
  cases values with
  | nil => rcases closes with rfl | rfl <;> simp [readItems, separated, skipSpace, isSpace]
  | cons first others =>
    obtain ⟨opens, read⟩ := spelled first List.mem_cons_self
    have read := read _ (stops_followed closes (others.map spelling) rest)
    have visible := skipSpace_of_opens opens (followed (others.map spelling) ++ close :: rest)
    obtain ⟨c, more, start, -, bracket, brace⟩ := opens
    have other : (c == close) = false := by rcases closes with rfl | rfl <;> simp [bracket, brace]
    have shorter : others.length ≤ (followed (others.map spelling)).length := by
      simpa using length_le_length_followed (others.map spelling)
    have tail := readTail_followed closes
      (fun value member => spelled value (List.mem_cons_of_mem _ member))
      ((c :: more ++ (followed (others.map spelling) ++ close :: rest)).length + 1)
      (by simp; omega) rest
    rw [List.map_cons, separated_cons, List.append_assoc, readItems, visible]
    rw [start, List.cons_append] at read ⊢
    rw [List.cons_append] at tail
    simp only [other, Bool.false_eq_true, ↓reduceIte, read, tail, Option.bind_eq_bind,
      Option.bind_some, Option.pure_def]

end

/-! ## Values -/

theorem compactItems_eq_map (items : List Json) : compactItems items = items.map compactChars := by
  induction items with
  | nil => rfl
  | cons item rest ih => rw [compactItems, ih, List.map_cons]

/-- The spelling of a member. -/
def memberChars (member : String × Json) : List Char :=
  textChars member.1 ++ ':' :: compactChars member.2

theorem compactMembers_eq_map (members : List (String × Json)) :
    compactMembers members = members.map memberChars := by
  induction members with
  | nil => rfl
  | cons member rest ih => rw [compactMembers, ih, List.map_cons, memberChars]

/-- A value without floating-point numbers, with at most `levels` lists and objects around each of
its parts. -/
inductive Spelled : Nat → Json → Prop
  | null (levels : Nat) : Spelled levels .null
  | bool (levels : Nat) (value : Bool) : Spelled levels (.bool value)
  | number (levels : Nat) {value : JsonNumber} (whole : Whole value) :
      Spelled levels (.number value)
  | text (levels : Nat) (value : String) : Spelled levels (.text value)
  | array {levels : Nat} {items : List Json} (spelled : ∀ item ∈ items, Spelled levels item) :
      Spelled (levels + 1) (.array items)
  | object {levels : Nat} {members : List (String × Json)}
      (spelled : ∀ member ∈ members, Spelled levels member.2) :
      Spelled (levels + 1) (.object members)

theorem Spelled.nat {levels number : Nat} (below : number < limit32) :
    Spelled levels (.nat number) :=
  .number _ (Nat.lt_trans below (by decide))

theorem Spelled.ofList {α : Type} {levels : Nat} {encode : α → Json} {values : List α}
    (each : ∀ value ∈ values, Spelled levels (encode value)) :
    Spelled (levels + 1) (.ofList encode values) :=
  .array fun item listed => by
    obtain ⟨value, member, rfl⟩ := List.mem_map.1 listed
    exact each value member

theorem Spelled.nats {levels : Nat} {ids : List Nat} (below : ∀ id ∈ ids, id < limit32) :
    Spelled (levels + 1) (.ofList .nat ids) :=
  .ofList fun id listed => .nat (below id listed)

/-- The spelling of a whole number starts with a digit or a minus sign. -/
theorem exists_toText_cons {number : JsonNumber} (whole : Whole number) :
    ∃ c rest, number.toText.toList = c :: rest ∧ (isDigit c = true ∨ c = '-') := by
  cases number with
  | natural value =>
    rw [JsonNumber.toText, Text.toList_toString]
    have nonempty := Nat.toDigits_ne_nil (n := value) (b := 10)
    have digit := Text.isDigit_of_mem_toDigits (List.head_mem nonempty)
    exact ⟨_, _, (List.cons_head_tail nonempty).symm, .inl digit⟩
  | negative magnitude =>
    rw [JsonNumber.toText, String.toList_append]
    exact ⟨'-', _, rfl, .inr rfl⟩
  | real value => exact whole.elim

theorem opens_compactChars {levels : Nat} {value : Json} (spelled : Spelled levels value) :
    Opens (compactChars value) := by
  cases spelled with
  | null => exact ⟨'n', _, rfl, rfl, by decide, by decide⟩
  | bool _ value =>
    cases value with
    | true => exact ⟨'t', _, rfl, rfl, by decide, by decide⟩
    | false => exact ⟨'f', _, rfl, rfl, by decide, by decide⟩
  | number _ whole =>
    obtain ⟨c, more, start, digit⟩ := exists_toText_cons whole
    refine ⟨c, more, start, Bool.eq_false_iff.2 fun space => ?_, ?_, ?_⟩
    · obtain ((rfl | rfl) | rfl) | rfl : ((c = ' ' ∨ c = '\t') ∨ c = '\n') ∨ c = '\r' := by
        simpa [isSpace] using space
      all_goals exact absurd digit (by decide)
    · rintro rfl
      exact absurd digit (by decide)
    · rintro rfl
      exact absurd digit (by decide)
  | text _ value => exact ⟨'"', _, rfl, rfl, by decide, by decide⟩
  | array _ => exact ⟨'[', _, rfl, rfl, by decide, by decide⟩
  | object _ => exact ⟨'\x7b', _, rfl, rfl, by decide, by decide⟩

theorem readKey_textChars (key : String) (rest : List Char) :
    readKey (textChars key ++ ':' :: rest) = some (key, rest) := by
  have read := readText_flatMap_escapeChar key.toList (':' :: rest)
  simp [readKey, textChars, skipSpace, isSpace, read]

theorem spells_member {levels : Nat} {member : String × Json}
    (spelled : Spells (readValue levels) (compactChars member.2) member.2) :
    Spells (readMember (readValue levels)) (memberChars member) member := by
  refine ⟨⟨'"', _, rfl, rfl, by decide, by decide⟩, fun rest stops => ?_⟩
  have read := spelled.2 rest stops
  rw [memberChars, List.append_assoc, List.cons_append, readMember, readKey_textChars]
  simp [read]

theorem readValue_number {levels : Nat} {number : JsonNumber} (whole : Whole number)
    {rest : List Char} (stops : Stops rest) :
    readValue levels (number.toText.toList ++ rest) = some (.number number, rest) := by
  have read := readNumber_toText whole stops
  have visible := skipSpace_of_opens (opens_compactChars (.number levels whole)) rest
  obtain ⟨c, more, start, digit⟩ := exists_toText_cons whole
  rw [compactChars] at visible
  unfold readValue
  rw [visible]
  rw [start, List.cons_append] at read ⊢
  split
  case h_7 => rw [read]; rfl
  all_goals
    next same =>
    obtain ⟨rfl, -⟩ := List.cons.inj same
    exact absurd digit (by decide)

/-- **A value is read back from its spelling**, whatever follows. -/
theorem spells_compactChars {levels : Nat} {value : Json} (spelled : Spelled levels value) :
    Spells (readValue levels) (compactChars value) value := by
  refine ⟨opens_compactChars spelled, ?_⟩
  induction spelled with
  | null levels =>
    intro rest _
    simp [readValue, compactChars, skipSpace, isSpace, readWord]
  | bool levels value =>
    intro rest _
    cases value <;> simp [readValue, compactChars, skipSpace, isSpace, readWord]
  | number levels whole => exact fun rest => readValue_number whole
  | text levels value =>
    intro rest _
    have read := readText_flatMap_escapeChar value.toList rest
    simp [readValue, compactChars, textChars, skipSpace, isSpace, read]
  | array spelled ih =>
    intro rest _
    have read := readItems_separated (.inl rfl)
      (fun item member => ⟨opens_compactChars (spelled item member), ih item member⟩) rest
    rw [← compactItems_eq_map] at read
    simp [readValue, compactChars, skipSpace, isSpace, read]
  | object spelled ih =>
    intro rest _
    have read := readItems_separated (.inr rfl) (fun member listed =>
      spells_member ⟨opens_compactChars (spelled member listed), ih member listed⟩) rest
    rw [← compactMembers_eq_map] at read
    simp [readValue, compactChars, skipSpace, isSpace, read]

/-- **The text of a value describes that value.** -/
theorem ofText?_compact {value : Json} (spelled : Spelled levelLimit value) :
    ofText? value.compact = some value := by
  have read := (spells_compactChars spelled).2 [] (by simp [Stops])
  rw [List.append_nil] at read
  simp [ofText?, compact, read, skipSpace]

/-! ## Documents -/

/-- A member whose key is known is kept. -/
theorem spells_known {keys : List String} {member : String × Json} (known : member.1 ∈ keys)
    (spelled : Spelled (levelLimit - 1) member.2) :
    Spells (readKnown keys) (memberChars member) (some member) := by
  refine ⟨⟨'"', _, rfl, rfl, by decide, by decide⟩, fun rest stops => ?_⟩
  have read := (spells_compactChars spelled).2 rest stops
  rw [memberChars, List.append_assoc, List.cons_append, readKnown, readKey_textChars]
  simp [known, read]

/-- **A document is read back from its text** where all its members are known. -/
theorem ofDocument?_compact {keys : List String} {members : List (String × Json)}
    (known : ∀ member ∈ members, member.1 ∈ keys)
    (spelled : ∀ member ∈ members, Spelled (levelLimit - 1) member.2) :
    ofDocument? keys (object members).compact = some (.object members) := by
  have parts : (members.map some).map (fun member => member.elim [] memberChars) =
      compactMembers members := by
    rw [compactMembers_eq_map, List.map_map]
    rfl
  have each : ∀ member ∈ members.map some,
      Spells (readKnown keys) (member.elim [] memberChars) member :=
    List.forall_mem_map.2 fun member listed =>
      spells_known (known member listed) (spelled member listed)
  have read := readItems_separated (.inr rfl) each []
  rw [parts] at read
  simp [ofDocument?, compact, compactChars, skipSpace, isSpace, readDocument, read]

end Json

end ClassAtlas
