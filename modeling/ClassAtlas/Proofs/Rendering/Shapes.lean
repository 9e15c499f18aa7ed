import ClassAtlas.Lookup
import ClassAtlas.Proofs.Recall.Types
import Mathlib.Data.List.Basic

/-!
# The look of texts

Where names are words and packages are words with dots between them (`Tables.Worded`), a text of a
type has no characters but those that can occur in the name of a type, and it starts with a word or,
for a wildcard, with a question mark.  The text of a class ends with a word
(`Tables.renderWithin_presents`), and its name with a word or with the bracket behind its variables
(`TypeView.referenceName_className`).
-/

set_option autoImplicit false

namespace ClassAtlas

namespace Text

/-! ## Words -/

/-- A letter, a number, an underscore or a dollar sign. -/
def isWordChar (c : Char) : Bool :=
  "_$".toList.contains c || inRanges letterRanges c

/-- One or more such characters. -/
structure IsWord (text : String) : Prop where
  nonempty : text.toList ≠ []
  chars : ∀ c ∈ text.toList, isWordChar c = true

instance (text : String) : Decidable (IsWord text) :=
  decidable_of_iff (text.toList ≠ [] ∧ text.toList.all isWordChar = true)
    ⟨fun both => ⟨both.1, List.all_eq_true.1 both.2⟩,
      fun word => ⟨word.nonempty, List.all_eq_true.2 word.chars⟩⟩

/-- One or more words with dots between them. -/
def IsDotted (text : String) : Prop :=
  ∃ words : List String, words ≠ [] ∧ (∀ word ∈ words, IsWord word) ∧ text = ".".intercalate words

/-- The blank characters as ranges. -/
def blankRanges : List (Nat × Nat) :=
  [(9, 13), (0x20, 0x20), (0x85, 0x85), (0xA0, 0xA0), (0x1680, 0x1680), (0x2000, 0x200A),
    (0x2028, 0x2029), (0x202F, 0x202F), (0x205F, 0x205F), (0x3000, 0x3000)]

theorem letterRanges_apart : ∀ letters ∈ letterRanges, ∀ blanks ∈ blankRanges,
    letters.2 < blanks.1 ∨ blanks.2 < letters.1 := by
  decide +kernel

theorem exists_blankRange {c : Char} (blank : isBlank c = true) :
    ∃ range ∈ blankRanges, range.1 ≤ c.toNat ∧ c.toNat ≤ range.2 := by
  simp only [isBlank, Bool.or_eq_true, Bool.and_eq_true, decide_eq_true_eq, beq_iff_eq] at blank
  simp only [blankRanges, List.exists_mem_cons_iff]
  omega

/-- Words have no blanks in them. -/
theorem isBlank_of_isWordChar {c : Char} (word : isWordChar c = true) : isBlank c = false := by
  rw [isWordChar, Bool.or_eq_true] at word
  rcases word with mark | letter
  · have marks : "_$".toList.all (fun c => !isBlank c) = true := by decide
    simpa using List.all_eq_true.1 marks c (List.contains_iff_mem.1 mark)
  · by_contra blank
    rw [Bool.not_eq_false] at blank
    obtain ⟨blanks, listedBlanks, above, below⟩ := exists_blankRange blank
    obtain ⟨letters, listedLetters, inside⟩ := List.any_eq_true.1 letter
    simp only [Bool.and_eq_true, decide_eq_true_eq] at inside
    have apart := letterRanges_apart letters listedLetters blanks listedBlanks
    omega

theorem isNameChar_of_isWordChar {c : Char} (word : isWordChar c = true) : isNameChar c = true := by
  rw [isWordChar, Bool.or_eq_true] at word
  rw [isNameChar]
  rcases word with mark | letter
  · have marks : "_$".toList.all "_$.<>?,&[]".toList.contains = true := by decide
    rw [List.all_eq_true.1 marks c (List.contains_iff_mem.1 mark)]
    rfl
  · rw [letter, Bool.or_true]

/-! ## Texts of name characters -/

/-- A text of characters that can occur in the name of a type. -/
def NameChars (text : String) : Prop :=
  ∀ c ∈ text.toList, isNameChar c = true

instance (text : String) : Decidable (NameChars text) :=
  decidable_of_iff (text.toList.all isNameChar = true) List.all_eq_true

/-- A text of name characters that starts with a word or a question mark. -/
structure Printed (text : String) : Prop where
  chars : NameChars text
  start : ∃ c, text.toList.head? = some c ∧ (isWordChar c = true ∨ c = '?')

/-- A text that ends with a word. -/
def EndsWord (text : String) : Prop :=
  ∃ c, text.toList.getLast? = some c ∧ isWordChar c = true

/-- A printed text that ends with a word or with a closing bracket. -/
structure ClassName (text : String) : Prop where
  printed : Printed text
  ends : ∃ c, text.toList.getLast? = some c ∧ (isWordChar c = true ∨ c = '>')

variable {left right text : String}

theorem NameChars.append (before : NameChars left) (after : NameChars right) :
    NameChars (left ++ right) := by
  intro c listed
  rw [String.toList_append] at listed
  exact (List.mem_append.1 listed).elim (before c) (after c)

theorem nameChars_intercalate {separator : String} {parts : List String}
    (between : NameChars separator) (each : ∀ part ∈ parts, NameChars part) :
    NameChars (separator.intercalate parts) := by
  intro c listed
  rw [String.toList_intercalate] at listed
  induction parts with
  | nil => cases listed
  | cons first rest ih =>
    obtain ⟨here, there⟩ := List.forall_mem_cons.1 each
    cases rest with
    | nil =>
      rw [List.map_cons, List.map_nil, List.intercalate_singleton] at listed
      exact here c listed
    | cons second others =>
      rw [List.map_cons, List.map_cons, List.intercalate_cons_cons, List.mem_append,
        List.mem_append] at listed
      obtain (listed | listed) | listed := listed
      · exact here c listed
      · exact between c listed
      · exact ih there listed

theorem nameChars_arraySuffix (depth : Nat) : NameChars (arraySuffix depth) := by
  intro c listed
  rw [arraySuffix, String.toList_join, List.mem_flatMap] at listed
  obtain ⟨pair, member, listed⟩ := listed
  have brackets : NameChars "[]" := by decide
  exact brackets c (List.eq_of_mem_replicate member ▸ listed)

theorem Printed.append (printed : Printed left) (after : NameChars right) :
    Printed (left ++ right) := by
  obtain ⟨c, head, starts⟩ := printed.start
  refine ⟨printed.chars.append after, c, ?_, starts⟩
  rw [String.toList_append, List.head?_append, head]
  rfl

theorem EndsWord.append (ends : EndsWord right) (left : String) : EndsWord (left ++ right) := by
  obtain ⟨c, last, word⟩ := ends
  refine ⟨c, ?_, word⟩
  rw [String.toList_append, List.getLast?_append, last]
  rfl

namespace IsWord

variable (word : IsWord text)

include word

theorem nameChars : NameChars text :=
  fun c listed => isNameChar_of_isWordChar (word.chars c listed)

theorem printed : Printed text := by
  obtain ⟨c, rest, same⟩ := List.exists_cons_of_ne_nil word.nonempty
  exact ⟨word.nameChars, c, by rw [same]; rfl, .inl (word.chars c (same ▸ List.mem_cons_self))⟩

theorem endsWord : EndsWord text :=
  ⟨_, List.getLast?_eq_some_getLast word.nonempty, word.chars _ (List.getLast_mem _)⟩

end IsWord

theorem IsDotted.printed (dotted : IsDotted text) : Printed text := by
  obtain ⟨words, some, each, rfl⟩ := dotted
  have between : NameChars "." := by decide
  refine ⟨nameChars_intercalate between fun word listed => (each word listed).nameChars, ?_⟩
  obtain ⟨first, rest, rfl⟩ := List.exists_cons_of_ne_nil some
  obtain ⟨c, head, starts⟩ := (each first List.mem_cons_self).printed.start
  refine ⟨c, ?_, starts⟩
  rw [String.toList_intercalate, List.map_cons]
  cases rest with
  | nil => rwa [List.map_nil, List.intercalate_singleton]
  | cons second others =>
    rw [List.map_cons, List.intercalate_cons_cons, List.append_assoc, List.head?_append, head]
    rfl

end Text

open Text (IsWord IsDotted NameChars Printed EndsWord ClassName)

/-- Work for each item of a list, and what holds of all its results. -/
theorem Work.meets_forAll_results {σ α β : Type} {invariant : σ → Prop}
    {step : α → Remembering σ β} {result : β → Prop} {fault : Fault → Prop} {items : List α}
    (each : ∀ item ∈ items, Meets invariant (step item) result fault) :
    Meets invariant (forAll step items) (fun results => ∀ value ∈ results, result value) fault := by
  induction items with
  | nil => exact meets_pure (List.forall_mem_nil _)
  | cons item rest ih =>
    obtain ⟨here, there⟩ := List.forall_mem_cons.1 each
    refine here.bind fun first holds => (ih there).bind fun others hold => ?_
    exact meets_pure (List.forall_mem_cons.2 ⟨holds, hold⟩)

namespace Tables

/-- Snapshots whose names are words and whose packages are words with dots between them. -/
structure Worded (tables : Tables) : Prop where
  names : ∀ {id : Nat} {text : String}, tables.NameIs id text → IsWord text
  packages : ∀ {id : Nat} {text : String}, tables.PackageIs id text → IsDotted text

/-- A text that looks like one of a type: it is printed, and for a class without dimensions it ends
with a word. -/
structure Presents (tables : Tables) (ref : TypeRef) (text : String) : Prop where
  printed : Printed text
  endsWord : ∀ {record : ClassRecord}, tables.typeData ref.id = .ok (.rawClass record) →
    ref.depth = 0 → EndsWord text

end Tables

/-- What is remembered of names and packages is what they are without memory, and the texts look
like texts of types. -/
structure Memory.Presentable (tables : Tables) (memory : Memory) : Prop where
  names : ∀ {id : Nat} {text : String}, memory.names[id]? = some text → tables.NameIs id text
  packages : ∀ {id : Nat} {text : String},
    memory.packages[id]? = some text → tables.PackageIs id text
  texts : ∀ {ref : TypeRef} {options : NameOptions} {text : String},
    memory.texts[(ref, options)]? = some text → tables.Presents ref text

theorem Memory.presentable_empty (tables : Tables) : Memory.empty.Presentable tables where
  names := fun found => by simp [Memory.empty] at found
  packages := fun found => by simp [Memory.empty] at found
  texts := fun found => by simp [Memory.empty] at found

namespace Tables

variable {tables : Tables} (worded : tables.Worded)

include worded

/-! ## The parts of a type -/

theorem name_word (id : Nat) :
    Work.Meets (Memory.Presentable tables) (tables.name id) IsWord fun _ => True := by
  intro memory presentable
  rw [name_apply]
  refine ⟨{ presentable with names := Directory.ask_spells presentable.names }, ?_⟩
  cases found : tables.resolveName memory.names (chainLimit + 1) id with
  | error fault => trivial
  | ok text => exact worded.names (nameIs_of_resolveName presentable.names found)

theorem packageName_dotted (id : Nat) :
    Work.Meets (Memory.Presentable tables) (tables.packageName id) IsDotted fun _ => True := by
  intro memory presentable
  rw [packageName_apply]
  refine ⟨{ presentable with packages := Directory.ask_spells presentable.packages }, ?_⟩
  cases found : tables.resolvePackage memory.packages (chainLimit + 1) id with
  | error fault => trivial
  | ok text => exact worded.packages (packageIs_of_resolvePackage presentable.packages found)

theorem rawClassName_printed (record : ClassRecord) (appendPackage : Bool) :
    Work.Meets (Memory.Presentable tables) (tables.rawClassName record appendPackage)
      (fun text => Printed text ∧ EndsWord text) fun _ => True := by
  refine (name_word worded record.name).bind fun name word => ?_
  have bare : Printed name ∧ EndsWord name := ⟨word.printed, word.endsWord⟩
  split
  · cases record.package with
    | none => exact Work.meets_pure bare
    | some package =>
      refine (packageName_dotted worded package).bind fun outer dotted => Work.meets_pure ?_
      split
      · exact bare
      · have dot : NameChars "." := by decide
        exact ⟨(dotted.printed.append dot).append word.nameChars, word.endsWord.append _⟩
  · exact Work.meets_pure bare

variable {render : Renderer} (options : NameOptions)
  (parts : ∀ ref other,
    Work.Meets (Memory.Presentable tables) (render ref other) Printed fun _ => True)

include parts

omit worded in
theorem renderJoined_nameChars {separator : String} (between : NameChars separator)
    (refs : List TypeRef) :
    Work.Meets (Memory.Presentable tables) (renderJoined render refs separator options) NameChars
      fun _ => True :=
  (Work.meets_forAll_results fun ref _ => parts ref options).bind fun _ each =>
    Work.meets_pure (Text.nameChars_intercalate between fun text listed => (each text listed).chars)

theorem renderClass_printed (id : Nat) (record : ClassRecord) :
    Work.Meets (Memory.Presentable tables) (tables.renderClass render id record options)
      (fun text => Printed text ∧ EndsWord text) fun _ => True := by
  have own := rawClassName_printed worded record
  simp only [renderClass]
  split
  · next declaring _ =>
    split
    · exact own _
    · split
      · exact Work.meets_throw trivial
      · refine (parts declaring options).bind fun outer printed => ?_
        refine (own false).bind fun name both => Work.meets_pure ?_
        have mark : NameChars "$" := by decide
        exact ⟨(printed.append mark).append both.1.chars, both.2.append _⟩
  · exact own _

theorem renderVariable_printed (record : TypeVariableRecord) :
    Work.Meets (Memory.Presentable tables) (tables.renderVariable render record options) Printed
      fun _ => True := by
  refine (name_word worded record.name).bind fun name word => ?_
  split
  · exact Work.meets_pure word.printed
  · refine (renderJoined_nameChars _ parts (by decide) _).bind fun bounds chars =>
      Work.meets_pure ?_
    have between : NameChars " extends " := by decide
    exact (word.printed.append between).append chars

omit worded in
theorem renderWildcard_printed (record : WildcardRecord) :
    Work.Meets (Memory.Presentable tables) (renderWildcard render record options) Printed
      fun _ => True := by
  have joined := renderJoined_nameChars options parts (show NameChars " & " by decide)
  have start : ∀ {text : String}, text.toList.head? = some '?' → NameChars text → Printed text :=
    fun head chars => ⟨chars, '?', head, .inr rfl⟩
  simp only [renderWildcard]
  split
  · refine (joined record.lower).bind fun bounds chars => Work.meets_pure ?_
    exact (start (by decide) (by decide) : Printed "? super ").append chars
  · split
    · refine (joined record.upper).bind fun bounds chars => Work.meets_pure ?_
      exact (start (by decide) (by decide) : Printed "? extends ").append chars
    · exact Work.meets_pure (start (by decide) (by decide))

omit worded in
theorem renderParameterized_printed (record : ParameterizedRecord) :
    Work.Meets (Memory.Presentable tables) (renderParameterized render record options) Printed
      fun _ => True := by
  have owner : Work.Meets (Memory.Presentable tables) (renderOwner render record options)
      (fun text => text = "" ∨ Printed text) fun _ => True := by
    simp only [renderOwner]
    split
    · exact Work.meets_pure (.inl rfl)
    · split
      · exact Work.meets_pure (.inl rfl)
      · refine (parts _ _).bind fun outer printed => Work.meets_pure ?_
        exact .inr (printed.append (show NameChars "$" by decide))
  have arguments : Work.Meets (Memory.Presentable tables) (renderArguments render record options)
      NameChars fun _ => True := by
    simp only [renderArguments]
    split
    · refine (renderJoined_nameChars _ parts (by decide) _).bind fun inner chars =>
        Work.meets_pure ?_
      have opening : NameChars "<" := by decide
      have closing : NameChars ">" := by decide
      exact (opening.append chars).append closing
    · exact Work.meets_pure (by decide)
  refine (parts record.rawType _).bind fun name printed => ?_
  refine owner.bind fun outer before => arguments.bind fun inner behind => Work.meets_pure ?_
  refine Printed.append ?_ behind
  rcases before with rfl | before
  · rwa [String.empty_append]
  · exact before.append printed.chars

/-- **A type is printed when its parts are**, and a class ends with a word. -/
theorem renderVariant_presents (id : Nat) :
    Work.Meets (Memory.Presentable tables) (tables.renderVariant render id options)
      (tables.Presents (.plain id)) fun _ => True := by
  refine Work.meets_lift_bind (Outcome.meets_true _) fun data known _ => ?_
  have other : ∀ {text : String}, data.variant ≠ .rawClass → Printed text →
      tables.Presents (.plain id) text := by
    refine fun apart printed => ⟨printed, fun again _ => absurd ?_ apart⟩
    cases known.symm.trans again
    rfl
  cases data with
  | rawClass record =>
    exact (renderClass_printed worded options parts id record).mono
      (fun _ both => ⟨both.1, fun _ _ => both.2⟩) fun _ same => same
  | typeVariable record =>
    exact (renderVariable_printed worded options parts record).mono
      (fun _ => other nofun) fun _ same => same
  | wildcard record =>
    exact (renderWildcard_printed options parts record).mono (fun _ => other nofun)
      fun _ same => same
  | parameterized record =>
    exact (renderParameterized_printed options parts record).mono (fun _ => other nofun)
      fun _ same => same

omit parts

/-! ## Texts -/

omit worded in
/-- With the dimensions behind it the text of the type that stands for a reference looks like one of
the reference. -/
theorem Presents.of_standIn {ref found : TypeRef} {options : NameOptions} {body : String}
    (stands : tables.standIn ref.element options = .ok found)
    (presents : tables.Presents (.plain found.id) body) :
    tables.Presents ref (body ++ arraySuffix (found.deepen ref.depth).depth) := by
  refine ⟨presents.printed.append (Text.nameChars_arraySuffix _), fun known flat => ?_⟩
  cases stands.symm.trans (standIn_rawClass known options)
  have undimensioned : body ++ arraySuffix (ref.element.deepen ref.depth).depth = body := by
    rw [flat]
    exact String.append_empty
  rw [undimensioned]
  exact presents.endsWord known rfl

/-- **The texts that the renderer gives look like texts of types.** -/
theorem renderWithin_presents (levels : Nat) (ref : TypeRef) (options : NameOptions) :
    Work.Meets (Memory.Presentable tables) (tables.renderWithin levels ref options)
      (tables.Presents ref) fun _ => True := by
  refine renderWithin_meets (Memory.Presentable tables) (fun ref _ => tables.Presents ref)
    (fun presentable => presentable.texts) ?_ ?_ levels ref options
  · intro _ parts ref found options stands
    have printed := fun ref other => (parts ref other).mono
      (fun _ presents => presents.printed) fun _ same => same
    exact (renderVariant_presents worded options printed found.id).mono
      (fun _ => Presents.of_standIn stands) fun _ same => same
  · intro _ ref _ options _ after _ text _ _ _ presents presentable
    have before : ∀ {key : TypeRef × NameOptions} {text : String},
        after.texts[key]? = some text → tables.Presents key.1 text := presentable.texts
    exact { presentable with texts := fun there => forall_getElem?_insert before presents there }

end Tables

namespace TypeView

variable {atlas : Atlas} {view : TypeView} (worded : atlas.tables.Worded)

include worded

/-- What is asked of a type keeps the texts as they should look. -/
theorem presentable_asked : atlas.Asked fun step =>
    Work.Meets (Memory.Presentable atlas.tables) step (fun _ => True) fun _ => True where
  lift outcome := Work.meets_lift (Outcome.meets_true outcome)
  bind kept then_ := kept.bind fun value _ => then_ value
  className _ := (Tables.name_word worded _).mono (fun _ _ => trivial) fun _ same => same
  variableName _ := (Tables.name_word worded _).mono (fun _ _ => trivial) fun _ same => same
  package _ package _ :=
    (Tables.packageName_dotted worded package).mono (fun _ _ => trivial) fun _ same => same
  map _ := Work.Meets.bind (fun _ presentable =>
    ⟨{ presentable with }, Outcome.meets_true _⟩) fun _ _ => Work.meets_pure trivial
  text ref options := (Tables.renderWithin_presents worded _ ref options).mono
    (fun _ _ => trivial) fun _ same => same

theorem declaredSuffix_printed (options : NameOptions) :
    Work.Meets (Memory.Presentable atlas.tables) (view.declaredSuffix atlas options)
      (fun text => text = "" ∨ NameChars text ∧ text.toList.getLast? = some '>')
      fun _ => True := by
  have parts := fun ref other => (Tables.renderWithin_presents worded
    (8 * atlas.tables.typeCount + 2) ref other).mono (fun _ presents => presents.printed)
      fun _ same => same
  rw [declaredSuffix]
  split
  · exact Work.meets_pure (.inl rfl)
  · refine (Tables.renderJoined_nameChars options parts (by decide) _).bind fun inner chars =>
      Work.meets_pure (.inr ⟨?_, ?_⟩)
    · have opening : NameChars "<" := by decide
      have closing : NameChars ">" := by decide
      exact (opening.append chars).append closing
    · show (("<" ++ inner) ++ ">").toList.getLast? = some '>'
      rw [String.toList_append]
      exact List.getLast?_concat

/-- **The name of a class is printed, and it ends with a word or with the bracket behind the
variables of the class.** -/
theorem nameWith_className {id : Nat} {record : ClassRecord}
    (known : atlas.tables.typeData id = .ok (.rawClass record)) (ref : view.ref = .plain id)
    (options : NameOptions) :
    Work.Meets (Memory.Presentable atlas.tables) (view.nameWith atlas options) ClassName
      fun _ => True := by
  rw [nameWith, ref]
  refine (Tables.renderWithin_presents worded _ _ options).bind fun base presents => ?_
  refine (declaredSuffix_printed worded options).bind fun suffix behind => Work.meets_pure ?_
  have undimensioned : base ++ suffix ++ arraySuffix (TypeRef.plain id).depth = base ++ suffix :=
    String.append_empty
  rw [undimensioned]
  rcases behind with rfl | ⟨chars, last⟩
  · obtain ⟨c, last, word⟩ := presents.endsWord known rfl
    rw [String.append_empty]
    exact ⟨presents.printed, c, last, .inl word⟩
  · refine ⟨presents.printed.append chars, '>', ?_, .inr rfl⟩
    rw [String.toList_append, List.getLast?_append, last]
    rfl

/-- So does the reference name of a class, whatever the class is bound to. -/
theorem referenceName_className {id : Nat} {record : ClassRecord}
    (known : atlas.tables.typeData id = .ok (.rawClass record)) (ref : view.ref = .plain id) :
    Work.Meets (Memory.Presentable atlas.tables) (view.referenceName atlas) ClassName
      fun _ => True :=
  ((presentable_asked worded).nameOptions view true true).bind fun options _ =>
    nameWith_className worded known ref options

end TypeView

end ClassAtlas
