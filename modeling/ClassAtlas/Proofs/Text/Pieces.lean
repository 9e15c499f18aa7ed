import ClassAtlas.Text.Blank
import ClassAtlas.Text.Numerals
import Mathlib.Data.List.Induction

/-!
# Trimming and cutting texts

A text without blanks at its ends is its own trimmed form (`trim_eq_self`), and a text that joins
parts is cut into these parts, as long as none of them holds the cutting character
(`pieces_intercalate`).  The words of a text are told apart by any blanks between them
(`words_append_blank`), and blanks at the end make no difference (`words_append_blanks`).
-/

set_option autoImplicit false

namespace ClassAtlas.Text

/-! ## Trimming -/

theorem dropBlanks_eq_self {text : List Char} (start : ∀ c ∈ text.head?, isBlank c = false) :
    text.dropWhile isBlank = text := by
  cases text with
  | nil => rfl
  | cons c rest => rw [List.dropWhile_cons_of_neg (by simp [start c rfl])]

theorem trim_eq_self {text : List Char} (start : ∀ c ∈ text.head?, isBlank c = false)
    (last : ∀ c ∈ text.getLast?, isBlank c = false) : trim text = text := by
  rw [trim, trimStart, dropBlanks_eq_self start, trimEnd,
    dropBlanks_eq_self (by rwa [List.head?_reverse]), List.reverse_reverse]

/-- A text between two visible characters. -/
theorem trim_enclosed {first last : Char} (start : isBlank first = false)
    (stop : isBlank last = false) (body : List Char) :
    trim (first :: (body ++ [last])) = first :: (body ++ [last]) := by
  refine trim_eq_self ?_ ?_
  · simpa using start
  · simpa [List.getLast?_cons] using stop

theorem isBlank_of_isDigit {c : Char} (digit : isDigit c = true) : isBlank c = false := by
  have range : 48 ≤ c.toNat ∧ c.toNat ≤ 57 := by
    simpa [isDigit, Char.le_def, UInt32.le_iff_toNat_le] using digit
  simp only [isBlank, Bool.or_eq_false_iff, Bool.and_eq_false_iff, decide_eq_false_iff_not,
    beq_eq_false_iff_ne]
  omega

/-! ## Joining and cutting -/

/-- The characters of a joined text come from its parts and from what stands between them. -/
theorem mem_or_mem_of_mem_intercalate {c : Char} {between : List Char} {parts : List (List Char)}
    (member : c ∈ between.intercalate parts) : c ∈ between ∨ ∃ part ∈ parts, c ∈ part := by
  induction parts with
  | nil => simp at member
  | cons first rest ih =>
    by_cases last : rest = []
    · subst last
      exact .inr ⟨first, List.mem_cons_self, by simpa using member⟩
    · rw [List.intercalate_cons_of_ne_nil last, List.mem_append, List.mem_append] at member
      rcases member with (here | cut) | there
      · exact .inr ⟨first, List.mem_cons_self, here⟩
      · exact .inl cut
      · exact (ih there).imp_right fun ⟨part, listed, inside⟩ =>
          ⟨part, List.mem_cons_of_mem _ listed, inside⟩

theorem split_eq_splitOnP (cuts : Char → Bool) (text : List Char) :
    split cuts text = text.splitOnP cuts := by
  induction text with
  | nil => rfl
  | cons c rest ih =>
    rw [split, ih, List.splitOnP_cons_eq_if_modifyHead]
    split
    · rfl
    · obtain ⟨piece, pieces, cutRest⟩ := List.exists_cons_of_ne_nil (List.splitOnP_ne_nil cuts rest)
      rw [cutRest]
      rfl

theorem split_eq_splitOn (cut : Char) (text : List Char) :
    split (· == cut) text = text.splitOn cut :=
  split_eq_splitOnP (· == cut) text

/-- **A joined text is cut into the parts that it joins.** -/
theorem split_intercalate {cut : Char} {parts : List (List Char)} (nonempty : parts ≠ [])
    (clean : ∀ part ∈ parts, cut ∉ part) : split (· == cut) ([cut].intercalate parts) = parts := by
  rw [split_eq_splitOn, List.splitOn_intercalate cut clean nonempty]

/-- The same of strings. -/
theorem pieces_intercalate {parts : List String} (nonempty : parts ≠ [])
    (clean : ∀ part ∈ parts, ',' ∉ part.toList) : pieces ',' (",".intercalate parts) = parts := by
  have written : (",".intercalate parts).toList = [','].intercalate (parts.map String.toList) :=
    String.toList_intercalate
  have whole : split (· == ',') ([','].intercalate (parts.map String.toList)) =
      parts.map String.toList :=
    split_intercalate (by simpa using nonempty) (by simpa using clean)
  rw [pieces, written, whole, List.map_map]
  simp [Function.comp_def]

/-! ## Words -/

/-- A blank ends one word and begins the next one. -/
theorem words_append_blank {c : Char} (blank : isBlank c = true) (left right : List Char) :
    words (left ++ c :: right) = words left ++ words right := by
  simp only [words, split_eq_splitOnP]
  rw [List.splitOnP_append_cons left right blank, List.filter_append]

theorem words_of_blanks {blanks : List Char} (blank : ∀ c ∈ blanks, isBlank c = true) :
    words blanks = [] := by
  induction blanks with
  | nil => rfl
  | cons c rest ih =>
    obtain ⟨first, others⟩ := List.forall_mem_cons.1 blank
    exact (words_append_blank first [] rest).trans (ih others)

/-- Blanks behind a text are no words. -/
theorem words_append_blanks (text : List Char) {blanks : List Char}
    (blank : ∀ c ∈ blanks, isBlank c = true) : words (text ++ blanks) = words text := by
  cases blanks with
  | nil => rw [List.append_nil]
  | cons c rest =>
    obtain ⟨first, others⟩ := List.forall_mem_cons.1 blank
    rw [words_append_blank first, words_of_blanks others, List.append_nil]

/-- A text without a blank is one word. -/
theorem words_of_visible {word : List Char} (nonempty : word ≠ [])
    (visible : ∀ c ∈ word, isBlank c = false) : words word = [word] := by
  rw [words, split_eq_splitOnP, List.splitOnP_eq_singleton visible]
  simp [nonempty]

/-- A text ends with the longest part of which something holds. -/
theorem exists_longest_end (holds : Char → Bool) (text : List Char) :
    ∃ front back, text = front ++ back ∧ (∀ c ∈ back, holds c = true) ∧
      ∀ c ∈ front.getLast?, holds c = false := by
  induction text using List.reverseRecOn with
  | nil => exact ⟨[], [], rfl, List.forall_mem_nil _, fun _ last => nomatch last⟩
  | append_singleton init last ih =>
    cases here : holds last with
    | false =>
      refine ⟨init ++ [last], [], (List.append_nil _).symm, List.forall_mem_nil _, ?_⟩
      simpa using here
    | true =>
      obtain ⟨front, back, rfl, all, before⟩ := ih
      refine ⟨front, back ++ [last], List.append_assoc .., ?_, before⟩
      exact List.forall_mem_append.2 ⟨all, List.forall_mem_singleton.2 here⟩

end ClassAtlas.Text
