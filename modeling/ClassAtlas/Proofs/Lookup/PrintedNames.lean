import ClassAtlas.Proofs.Lookup.MoreMemory
import ClassAtlas.Proofs.Rendering.Nesting
import ClassAtlas.Proofs.Rendering.Shapes
import ClassAtlas.Proofs.Text.Pieces
import Mathlib.Tactic.IntervalCases

/-!
# Looking printed names up

The name that a class is printed with is cut into the name itself and the brackets behind it
(`splitDimensions_of_className`), it is searched among types that include the class
(`Partitions.candidates_eq`), and the search stops at the class at the latest.  So a class is found
by its qualified name, or another type that goes by the same name is, whatever was asked before
(`Atlas.resolve_printedName`).

A class that is declared in a wildcard is printed with the question mark of the wildcard in front.
Such a name is searched among wildcards only, so the class is not found
(`Snapshot.wildcardMember`).
-/

set_option autoImplicit false

namespace ClassAtlas

open Text (IsWord ClassName Printed isWordChar isBlank)

/-! ## Names and dimensions -/

namespace Text

variable {text : String}

theorem Printed.visible (printed : Printed text) : ∀ c ∈ text.toList.head?, isBlank c = false := by
  intro other head
  obtain ⟨c, start, word | rfl⟩ := printed.start
  · obtain rfl := Option.some.inj (start.symm.trans head)
    exact isBlank_of_isWordChar word
  · obtain rfl := Option.some.inj (start.symm.trans head)
    decide

theorem ClassName.closed (named : ClassName text) :
    ∃ c, text.toList.getLast? = some c ∧ isBlank c = false ∧ c ≠ ']' := by
  obtain ⟨c, last, word | rfl⟩ := named.ends
  · refine ⟨c, last, isBlank_of_isWordChar word, ?_⟩
    rintro rfl
    exact absurd word (by decide +kernel)
  · exact ⟨'>', last, by decide, by decide⟩

end Text

theorem toList_arraySuffix_succ (depth : Nat) :
    (arraySuffix (depth + 1)).toList = (arraySuffix depth).toList ++ ['[', ']'] := by
  rw [arraySuffix, arraySuffix, String.toList_join, String.toList_join, List.replicate_succ',
    List.flatMap_append, List.flatMap_singleton]
  rfl

/-- What does not end with a blank still does not with dimensions behind it. -/
theorem visible_arraySuffix {name : List Char} (last : ∀ c ∈ name.getLast?, isBlank c = false)
    (depth : Nat) : ∀ c ∈ (name ++ (arraySuffix depth).toList).getLast?, isBlank c = false := by
  cases depth with
  | zero => simpa [arraySuffix] using last
  | succ depth =>
    rw [toList_arraySuffix_succ, ← List.append_assoc]
    intro c ends
    rw [List.getLast?_append_of_ne_nil _ (List.cons_ne_nil _ _)] at ends
    cases ends
    decide

theorem dropDimensions_arraySuffix {name : List Char}
    (closed : ∃ c, name.getLast? = some c ∧ isBlank c = false ∧ c ≠ ']') (depth : Nat) :
    dropDimensions (name ++ (arraySuffix depth).toList).reverse = (name.reverse, depth) := by
  obtain ⟨c, last, visible, other⟩ := closed
  induction depth with
  | zero =>
    have start : name.reverse.head? = some c := by rw [List.head?_reverse, last]
    rw [show (arraySuffix 0).toList = [] from rfl, List.append_nil]
    refine dropDimensions.eq_2 _ fun rest same => ?_
    rw [same] at start
    exact other (Option.some.inj start).symm
  | succ depth ih =>
    rw [toList_arraySuffix_succ, ← List.append_assoc, List.reverse_append]
    show dropDimensions (']' :: '[' :: (name ++ (arraySuffix depth).toList).reverse) = _
    rw [dropDimensions, Text.dropBlanks_eq_self, ih]
    rw [List.head?_reverse]
    refine visible_arraySuffix (fun other ends => ?_) depth
    rw [last] at ends
    exact Option.some.inj ends ▸ visible

variable {name : String}

theorem trim_arraySuffix (named : ClassName name) (depth : Nat) :
    Text.trim (name ++ arraySuffix depth).toList = (name ++ arraySuffix depth).toList := by
  obtain ⟨c, last, visible, -⟩ := named.closed
  refine Text.trim_eq_self ?_ ?_
  · exact (named.printed.append (Text.nameChars_arraySuffix depth)).visible
  · rw [String.toList_append]
    refine visible_arraySuffix (fun other ends => ?_) depth
    rw [last] at ends
    exact Option.some.inj ends ▸ visible

/-- **The name of a class is cut from the dimensions behind it.** -/
theorem splitDimensions_of_className (named : ClassName name) (depth : Nat) :
    splitDimensions (name ++ arraySuffix depth) = (name, depth) := by
  have cut := dropDimensions_arraySuffix named.closed depth
  rw [← String.toList_append] at cut
  simp only [splitDimensions, trim_arraySuffix named, cut, List.reverse_reverse,
    String.ofList_toList]

/-! ## Where a name is searched -/

namespace Partitions

variable {tables : Tables} {ids : List Nat} {partitions : Partitions}

/-- The group of a type is that of its variant. -/
theorem mem_groups_of_ofIds (grouped : ofIds tables ids = .ok partitions) :
    (∀ id ∈ partitions.rawClasses, ∃ record, tables.typeData id = .ok (.rawClass record)) ∧
    (∀ id ∈ partitions.parameterized,
      ∃ record, tables.typeData id = .ok (.parameterized record)) ∧
    ∀ id ∈ ids, ∀ record, tables.typeData id = .ok (.rawClass record) →
      id ∈ partitions.rawClasses := by
  induction ids generalizing partitions with
  | nil =>
    cases grouped
    exact ⟨List.forall_mem_nil _, List.forall_mem_nil _, List.forall_mem_nil _⟩
  | cons first rest ih =>
    obtain ⟨data, known, grouped⟩ := Outcome.bind_eq_ok.1 grouped
    obtain ⟨others, groupedRest, grouped⟩ := Outcome.bind_eq_ok.1 grouped
    cases grouped
    obtain ⟨classes, applications, listed⟩ := ih groupedRest
    cases data with
    | rawClass record =>
      refine ⟨List.forall_mem_cons.2 ⟨⟨record, known⟩, classes⟩, applications,
        List.forall_mem_cons.2 ⟨fun _ _ => List.mem_cons_self, fun id member other read => ?_⟩⟩
      exact List.mem_cons_of_mem _ (listed id member other read)
    | parameterized record =>
      refine ⟨classes, List.forall_mem_cons.2 ⟨⟨record, known⟩, applications⟩,
        List.forall_mem_cons.2 ⟨fun other read => ?_, listed⟩⟩
      cases known.symm.trans read
    | typeVariable record | wildcard record =>
      refine ⟨classes, applications, List.forall_mem_cons.2 ⟨fun other read => ?_, listed⟩⟩
      cases known.symm.trans read

/-- A name that does not start with a question mark is searched among all classes, and before them
among parameterized types at most. -/
theorem candidates_eq (partitions : Partitions) {name : String}
    (plain : name.toList.head? ≠ some '?') :
    ∃ front back, partitions.candidates name = front ++ back ∧
      (∀ id ∈ front, id ∈ partitions.parameterized ∨ id ∈ partitions.rawClasses) ∧
      ∀ id ∈ partitions.rawClasses, id ∈ front := by
  rw [candidates, if_neg (by simpa using plain)]
  split
  · exact ⟨_, [], (List.append_nil _).symm, fun _ => List.mem_append.1,
      fun _ => List.mem_append_right _⟩
  · split
    · exact ⟨_, [], (List.append_nil _).symm, fun _ => .inr, fun _ listed => listed⟩
    · exact ⟨_, _, rfl, fun _ => .inr, fun _ listed => listed⟩

end Partitions

namespace TypeView

variable {atlas : Atlas} {view : TypeView} {element : String} (dotted : '.' ∈ element.toList)

include dotted

theorem hasName_of_dotted :
    view.hasName atlas element = do
      if (← view.referenceName atlas) == element then return true
      else return (← view.qualifiedName atlas false) == element := by
  rw [hasName, if_pos (List.contains_iff_mem.2 dotted)]

/-- A type that always has its qualified names always says whether one of them is the name. -/
theorem hasName_always_of_dotted {sound : Memory → Prop} {reference qualified : String}
    (given : Work.Always sound (view.referenceName atlas) reference)
    (given' : Work.Always sound (view.qualifiedName atlas false) qualified) :
    Work.Always sound (view.hasName atlas element)
      (reference == element || qualified == element) := by
  rw [hasName_of_dotted dotted]
  refine given.bind ?_
  split
  · next same =>
    rw [same, Bool.true_or]
    exact Work.always_pure true
  · next other =>
    rw [Bool.not_eq_true] at other
    rw [other, Bool.false_or]
    exact given'.bind (Work.always_pure _)

end TypeView

namespace Atlas

variable {atlas : Atlas}

/-- A type has its names with packages: with type arguments and without. -/
def HasQualifiedNames (atlas : Atlas) (id : Nat) : Prop :=
  ∀ view, atlas.tables.view (.plain id) = .ok view →
    (∃ text, (view.referenceName atlas .empty).1 = .ok text) ∧
      ∃ text, (view.qualifiedName atlas false .empty).1 = .ok text

/-- Snapshots whose names are words and whose packages are words with dots between them, without
owners of supertypes, in which the classes and the parameterized types have their names. -/
structure Printable (atlas : Atlas) : Prop where
  worded : atlas.tables.Worded
  unowned : atlas.tables.SupertypesUnowned
  named : ∀ id data, atlas.tables.typeData id = .ok data →
    data.variant = .rawClass ∨ data.variant = .parameterized → atlas.HasQualifiedNames id

/-- A class with a reference name. -/
def PrintsClass (atlas : Atlas) (id : Nat) (name : String) : Prop :=
  ∃ record, atlas.tables.typeData id = .ok (.rawClass record) ∧
    (TypeView.referenceName ⟨.plain id, .rawClass record, .empty⟩ atlas .empty).1 = .ok name

/-- A type with a qualified name, with type arguments or without. -/
def GoesBy (atlas : Atlas) (id : Nat) (name : String) : Prop :=
  ∃ view, atlas.tables.view (.plain id) = .ok view ∧
    ((view.referenceName atlas .empty).1 = .ok name ∨
      (view.qualifiedName atlas false .empty).1 = .ok name)

section

variable (detached : ∀ id, atlas.Detached id) {name : String} (dotted : '.' ∈ name.toList)

include detached dotted

/-- **A type that has its names without memory always says whether one of them is the name.** -/
theorem HasQualifiedNames.hasName_always {id : Nat} (named : atlas.HasQualifiedNames id)
    {view : TypeView} (seen : atlas.tables.view (.plain id) = .ok view) :
    ∃ answer, Work.Always (Memory.Trusted atlas) (view.hasName atlas name) answer ∧
      (answer = true → atlas.GoesBy id name) := by
  obtain ⟨⟨reference, given⟩, qualified, given'⟩ := named view seen
  have fresh := Memory.trusted_empty atlas
  have naming : ∀ includeGenerics, Work.Rises (Memory.Trusted atlas)
      (view.qualifiedName atlas includeGenerics) :=
    (rises_asked detached).naming view true
  refine ⟨_, TypeView.hasName_always_of_dotted dotted ((naming true).always fresh given)
    ((naming false).always fresh given'), fun answers => ⟨view, seen, ?_⟩⟩
  rcases Bool.or_eq_true_iff.1 answers with same | same
  · exact .inl (beq_iff_eq.1 same ▸ given)
  · exact .inr (beq_iff_eq.1 same ▸ given')

theorem HasQualifiedNames.responds {id : Nat} (named : atlas.HasQualifiedNames id)
    (reads : ∃ data, atlas.tables.typeData id = .ok data) :
    atlas.Responds (Memory.Trusted atlas) name id := by
  obtain ⟨data, known⟩ := reads
  have seen : atlas.tables.view (.plain id) = .ok ⟨.plain id, data, .empty⟩ :=
    Outcome.bind_eq_ok.2 ⟨data, known, rfl⟩
  obtain ⟨answer, always, -⟩ := named.hasName_always detached dotted seen
  exact ⟨_, answer, seen, always⟩

/-- A type that answers to a name with a dot has it as one of its qualified names. -/
theorem HasQualifiedNames.goesBy {id : Nat} (named : atlas.HasQualifiedNames id)
    (answers : atlas.answersTo name id = true) : atlas.GoesBy id name := by
  rw [answersTo] at answers
  split at answers
  · next view seen =>
    obtain ⟨answer, always, goesBy⟩ := named.hasName_always detached dotted seen
    simp only [always.fst_eq (Memory.trusted_empty atlas)] at answers
    exact goesBy answers
  · cases answers

/-- What is sought is what a text with a dot stands for, whatever was asked before. -/
theorem resolve_of_seek (trimmed : Text.trimmed name = name) (earlier : List Question)
    {found : Option TypeRef}
    (sought : Work.Always (Memory.Trusted atlas) (atlas.seek name) found) :
    (atlas.resolve name (atlas.afterQuestions earlier)).1 = .ok found := by
  have noNumber : name.toList.all Text.isDigit = false :=
    List.all_eq_false.2 ⟨'.', dotted, by decide⟩
  rw [resolve]
  simp only [trimmed, noNumber, Bool.and_false, Bool.false_eq_true, if_false]
  exact findByName_of_always detached earlier sought

end

/-- The types that are searched up to a class that goes by a name have their names, when all classes
and all parameterized types do. -/
theorem named_of_searched {name : String} {partitions : Partitions}
    (grouped : Partitions.ofTables atlas.tables = .ok partitions)
    (named : ∀ id data, atlas.tables.typeData id = .ok data →
      data.variant = .rawClass ∨ data.variant = .parameterized → atlas.HasQualifiedNames id)
    (plain : name.toList.head? ≠ some '?') {id : Nat} (listed : id ∈ partitions.rawClasses)
    (answers : atlas.answersTo name id = true) {before after : List Nat} {other : Nat}
    (split : partitions.candidates name = before ++ other :: after)
    (misses : ∀ earlier ∈ before, atlas.answersTo name earlier = false) :
    atlas.HasQualifiedNames other ∧ ∃ data, atlas.tables.typeData other = .ok data := by
  obtain ⟨front, back, searched, proper, all⟩ := partitions.candidates_eq plain
  obtain ⟨classes, applications, -⟩ := Partitions.mem_groups_of_ofIds grouped
  have early : id ∉ before := fun member => by
    rw [misses id member] at answers
    cases answers
  have inFront : other ∈ front := by
    rcases List.append_eq_append_iff.1 (split.symm.trans searched) with
      ⟨middle, rfl, rest⟩ | ⟨middle, rfl, -⟩
    · cases middle with
      | nil => exact absurd (all id listed) (by simpa using early)
      | cons first more =>
        obtain rfl : other = first := (List.cons.inj rest).1
        exact List.mem_append_right _ List.mem_cons_self
    · exact absurd (List.mem_append_left _ (all id listed)) early
  rcases proper other inFront with member | member
  · obtain ⟨record, known⟩ := applications other member
    exact ⟨named other _ known (.inr rfl), _, known⟩
  · obtain ⟨record, known⟩ := classes other member
    exact ⟨named other _ known (.inl rfl), _, known⟩

/-- A class answers to its reference name. -/
theorem PrintsClass.answersTo {name : String} (dotted : '.' ∈ name.toList) {id : Nat}
    (printed : atlas.PrintsClass id name) : atlas.answersTo name id = true := by
  obtain ⟨record, known, given⟩ := printed
  have seen : atlas.tables.view (.plain id) = .ok ⟨.plain id, .rawClass record, .empty⟩ :=
    Outcome.bind_eq_ok.2 ⟨_, known, rfl⟩
  have asked : (TypeView.hasName ⟨.plain id, .rawClass record, .empty⟩ atlas name .empty).1 =
      .ok true := by
    rw [TypeView.hasName_of_dotted dotted]
    rcases run : TypeView.referenceName ⟨.plain id, .rawClass record, .empty⟩ atlas .empty with
      ⟨outcome, after⟩
    rw [run] at given
    cases given
    rw [Work.bind_of_ok run, if_pos (beq_self_eq_true _)]
    rfl
  simp only [Atlas.answersTo, seen, asked]

/-- The reference name of a class looks like the name of one. -/
theorem PrintsClass.className (worded : atlas.tables.Worded) {id : Nat} {name : String}
    (printed : atlas.PrintsClass id name) : ClassName name := by
  obtain ⟨record, known, given⟩ := printed
  have meets := TypeView.referenceName_className worded known
    (show TypeView.ref ⟨.plain id, .rawClass record, .empty⟩ = .plain id from rfl)
  have outcome := (meets .empty (Memory.presentable_empty atlas.tables)).2
  rwa [given] at outcome

/-- The types among which a name of name characters is searched. -/
theorem searched_eq {partitions : Partitions}
    (grouped : Partitions.ofTables atlas.tables = .ok partitions) {name : String}
    (nonempty : name.toList ≠ []) (chars : ∀ c ∈ name.toList, isNameChar c = true) :
    atlas.searched name = partitions.candidates name := by
  have valid : (name.isEmpty || !name.toList.all isNameChar) = false := by
    rw [Bool.or_eq_false_iff, Bool.not_eq_false', List.all_eq_true]
    exact ⟨Bool.eq_false_iff.2 fun empty => nonempty (by rw [String.isEmpty_iff.1 empty]; rfl),
      chars⟩
  rw [searched, valid, grouped]
  rfl

/-- **A class is found by the name that it is printed with**, whatever was asked before.  Take any
snapshot whose types can all be read, whose names are words and whose packages are words with dots
between them, in which no parameterized supertype has an owner and in which the classes and the
parameterized types all have their names.  When the reference name of a class contains a dot and
does not start with a question mark, then this name, with any number of dimensions behind it, stands
for a type of so many dimensions that goes by the name. -/
theorem resolve_printedName (atlas : Atlas)
    (decodes : ∀ id < atlas.tables.typeCount, ∃ data, atlas.tables.typeData id = .ok data)
    (printable : atlas.Printable) {id : Nat} {name : String} (printed : atlas.PrintsClass id name)
    (dotted : '.' ∈ name.toList) (plain : name.toList.head? ≠ some '?')
    (earlier : List Question) (depth : Nat) :
    ∃ found, (atlas.resolve (name ++ arraySuffix depth) (atlas.afterQuestions earlier)).1 =
        .ok (some ⟨found, depth⟩) ∧ atlas.GoesBy found name := by
  have detached := fun id => detached_of_unowned printable.unowned id
  have className := printed.className printable.worded
  have answers := printed.answersTo dotted
  have cut := splitDimensions_of_className className depth
  obtain ⟨partitions, grouped⟩ := partitions_ok decodes
  have searched := searched_eq grouped (List.ne_nil_of_mem dotted) className.printed.chars
  have listed : id ∈ partitions.rawClasses := by
    obtain ⟨record, known, -⟩ := printed
    obtain ⟨-, -, all⟩ := Partitions.mem_groups_of_ofIds grouped
    exact all id (List.mem_range.2 (Tables.typeData_lt known)) record known
  have named : ∀ before other after, partitions.candidates name = before ++ other :: after →
      (∀ earlier ∈ before, atlas.answersTo name earlier = false) →
        atlas.HasQualifiedNames other ∧ ∃ data, atlas.tables.typeData other = .ok data :=
    fun _ _ _ => named_of_searched grouped printable.named plain listed answers
  obtain ⟨found, first⟩ : ∃ found, (partitions.candidates name).find? (atlas.answersTo name) =
      some found := by
    obtain ⟨front, back, same, -, all⟩ := partitions.candidates_eq plain
    refine Option.isSome_iff_exists.1 (List.find?_isSome.2 ⟨id, ?_, answers⟩)
    exact same ▸ List.mem_append_left back (all id listed)
  have sought := seek_always (Memory.trusted_empty atlas) partitions_trusted grouped
    (name ++ arraySuffix depth) (by
      rw [cut, searched]
      intro before other after split misses
      obtain ⟨has, reads⟩ := named before other after split misses
      exact has.responds detached dotted reads)
  rw [cut, searched, first] at sought
  obtain ⟨goes, before, after, split, misses⟩ := List.find?_eq_some_iff_append.1 first
  have has := (named before found after split (by simpa using misses)).1
  refine ⟨found, resolve_of_seek detached ?_ ?_ earlier sought, has.goesBy detached dotted goes⟩
  · rw [String.toList_append]
    exact List.mem_append_left _ dotted
  · rw [Text.trimmed, trim_arraySuffix className, String.ofList_toList]

end Atlas

/-! ## A class in a wildcard -/

namespace Tables

variable {tables : Tables}

theorem NameIs.entry {id : Nat} {text : String} (is : tables.NameIs id text) :
    ∃ entry, tables.names[id]? = some entry := by
  obtain ⟨enough, given⟩ := is
  have resolved := given enough (Nat.le_refl _)
  unfold resolveName at resolved
  cases listed : tables.names[id]? with
  | some entry => exact ⟨entry, rfl⟩
  | none => simp [listed] at resolved

theorem PackageIs.entry {id : Nat} {text : String} (is : tables.PackageIs id text) :
    ∃ entry, tables.packages[id]? = some entry := by
  obtain ⟨enough, given⟩ := is
  have resolved := given enough (Nat.le_refl _)
  unfold resolvePackage at resolved
  cases listed : tables.packages[id]? with
  | some entry => exact ⟨entry, rfl⟩
  | none => simp [listed] at resolved

/-- Names that are written out as words, and packages that are single words. -/
structure Spelled (tables : Tables) : Prop where
  names : ∀ entry ∈ tables.names, ∃ word, entry = .text word ∧ IsWord word
  packages : ∀ entry ∈ tables.packages, entry.parent = none ∧ IsWord entry.segment

theorem Spelled.nested (spelled : tables.Spelled) : tables.Nested := by
  refine nested_of_flat (fun entry listed => ?_) fun entry listed =>
    (spelled.packages entry listed).1
  obtain ⟨word, rfl, -⟩ := spelled.names entry listed
  rfl

theorem Spelled.worded (spelled : tables.Spelled) : tables.Worded where
  names := by
    intro id text is
    obtain ⟨entry, listed⟩ := is.entry
    obtain ⟨word, rfl, holds⟩ := spelled.names entry (Array.mem_of_getElem? listed)
    rwa [is.unique (nameIs_of_fresh (resolveName_text listed chainLimit))]
  packages := by
    intro id text is
    obtain ⟨entry, listed⟩ := is.entry
    obtain ⟨alone, holds⟩ := spelled.packages entry (Array.mem_of_getElem? listed)
    have resolves : tables.resolvePackage ∅ (chainLimit + 1) id = .ok entry.segment := by
      rw [resolvePackage_succ listed Std.HashMap.getElem?_empty, readPackage, alone]
    rw [is.unique (packageIs_of_fresh resolves)]
    exact ⟨[entry.segment], List.cons_ne_nil _ _, by simpa using holds, rfl⟩

/-- A class without declaring class is written behind its package. -/
theorem textAlone_of_packaged {atlas : Atlas} {id package : Nat} {record : ClassRecord}
    {name outer text : String} (known : atlas.tables.typeData id = .ok (.rawClass record))
    (undeclared : record.declaringClass = none) (written : record.package = some package)
    (named : atlas.tables.names[record.name]? = some (.text name))
    (packaged : atlas.tables.packages[package]? = some ⟨outer, none⟩)
    (nonempty : outer.isEmpty = false) (spelled : s!"{outer}.{name}" = text) (levels : Nat)
    {options : NameOptions} (unbound : options.map = .empty)
    (qualified : options.appendPackage = true) :
    atlas.tables.textAlone (levels + 1) (.plain id) options = .ok text := by
  subst spelled
  have inside : Work.Always (Memory.Faithful atlas) (atlas.tables.packageName package) outer :=
    packageName_always (resolvePackage_succ packaged Std.HashMap.getElem?_empty _)
  refine textAlone_of_undeclared known undeclared unbound ?_ levels
  simp only [rawClassName, qualified, written, if_true]
  refine (name_always (resolveName_text named chainLimit)).bind (inside.bind ?_)
  rw [nonempty]
  exact Work.always_pure _

end Tables

/-- A class that is declared in a wildcard, and the class that bounds the wildcard. -/
def Snapshot.wildcardMember : Snapshot :=
  { empty with
    types := [
      .object [("n", .nat 0), ("D", .nat 1)],
      .object [("u", .array [.nat 2])],
      .object [("n", .nat 1), ("P", .nat 0)]]
    names := [.text "Inner", .text "Foo"]
    packages := [⟨"demo", none⟩] }

/-- The snapshot `wildcardMember` with the usual settings. -/
def Atlas.wildcardMember : Atlas :=
  ⟨.ofSnapshot .wildcardMember, .default⟩

namespace Atlas

open Tables (name_always textAlone_of_packaged textAlone_of_always)

/-- How the three types are written with their packages. -/
theorem wildcardMember_texts (includeGenerics : Bool) :
    let options : NameOptions := ⟨.empty, false, true, includeGenerics, false⟩
    wildcardMember.tables.textAlone 1 (.plain 2) options = .ok "demo.Foo" ∧
      wildcardMember.tables.textAlone 2 (.plain 1) options = .ok "? extends demo.Foo" ∧
      wildcardMember.tables.textAlone 3 (.plain 0) options = .ok "? extends demo.Foo$Inner" := by
  intro options
  have foo : wildcardMember.tables.textAlone 1 (.plain 2) options = .ok "demo.Foo" :=
    textAlone_of_packaged rfl rfl rfl rfl rfl rfl (by rfl) 0 rfl rfl
  have wild : wildcardMember.tables.textAlone 2 (.plain 1) options = .ok "? extends demo.Foo" := by
    have joined : Work.Always (Memory.Faithful wildcardMember)
        (Tables.renderJoined (fun ref options =>
          Work.lift (wildcardMember.tables.textAlone 1 ref options)) [.plain 2] " & " options)
        "demo.Foo" :=
      ((Work.always_lift foo).bind (Work.always_pure ["demo.Foo"])).bind
        (Work.always_pure "demo.Foo")
    refine textAlone_of_always rfl ((Work.always_lift rfl).bind ?_)
    exact joined.bind (Work.always_pure "? extends demo.Foo")
  refine ⟨foo, wild, textAlone_of_always rfl ((Work.always_lift rfl).bind ?_)⟩
  have name : Work.Always (Memory.Faithful wildcardMember) (wildcardMember.tables.name 0) "Inner" :=
    name_always (Tables.resolveName_text rfl chainLimit)
  refine (Work.always_lift wild).bind ((name.bind (Work.always_pure "Inner")).bind ?_)
  exact Work.always_pure "? extends demo.Foo$Inner"

theorem wildcardMember_spelled : wildcardMember.tables.Spelled := by
  constructor
  · rw [show wildcardMember.tables.names = #[.text "Inner", .text "Foo"] from rfl]
    simp only [List.mem_toArray, List.mem_cons, List.not_mem_nil, or_false]
    rintro entry (rfl | rfl)
    · exact ⟨"Inner", rfl, by decide +kernel⟩
    · exact ⟨"Foo", rfl, by decide +kernel⟩
  · rw [show wildcardMember.tables.packages = #[⟨"demo", none⟩] from rfl]
    simp only [List.mem_toArray, List.mem_cons, List.not_mem_nil, or_false]
    rintro entry rfl
    exact ⟨rfl, by decide +kernel⟩

theorem wildcardMember_unowned : wildcardMember.tables.SupertypesUnowned := by
  intro id cls supertype record known listed
  have inside : id < 3 := Tables.typeData_lt known
  interval_cases id <;> cases known <;> cases listed

theorem wildcardMember_steadfast : wildcardMember.Steadfast :=
  ⟨detached_of_unowned wildcardMember_unowned, wildcardMember_spelled.nested.legible⟩

theorem wildcardMember_qualifiedName (id : Nat) (text : String)
    (listed : (id, text) ∈
      [(0, "? extends demo.Foo$Inner"), (1, "? extends demo.Foo"), (2, "demo.Foo")])
    {view : TypeView} (seen : wildcardMember.tables.view (.plain id) = .ok view)
    (includeGenerics : Bool) :
    (view.qualifiedName wildcardMember includeGenerics .empty).1 = .ok text := by
  have steadfast := wildcardMember_steadfast
  obtain ⟨foo, wild, inner⟩ := wildcardMember_texts includeGenerics
  simp only [List.mem_cons, Prod.mk.injEq, List.not_mem_nil, or_false] at listed
  rcases listed with ⟨rfl, rfl⟩ | ⟨rfl, rfl⟩ | ⟨rfl, rfl⟩ <;> cases seen
  · exact TypeView.qualifiedName_of_textAlone rfl (fun _ _ _ => rfl) steadfast rfl rfl inner
  · exact TypeView.qualifiedName_of_textAlone rfl (fun _ _ _ => rfl) steadfast rfl rfl wild
  · exact TypeView.qualifiedName_of_textAlone rfl (fun _ _ _ => rfl) steadfast rfl rfl foo

theorem wildcardMember_hasQualifiedNames {id : Nat} (below : id < 3) :
    wildcardMember.HasQualifiedNames id := by
  obtain ⟨text, listed⟩ : ∃ text, (id, text) ∈
      [(0, "? extends demo.Foo$Inner"), (1, "? extends demo.Foo"), (2, "demo.Foo")] := by
    interval_cases id <;> simp
  exact fun view seen => ⟨⟨text, wildcardMember_qualifiedName _ _ listed seen true⟩,
    text, wildcardMember_qualifiedName _ _ listed seen false⟩

theorem wildcardMember_printable : wildcardMember.Printable :=
  ⟨wildcardMember_spelled.worded, wildcardMember_unowned,
    fun _ _ known _ => wildcardMember_hasQualifiedNames (Tables.typeData_lt known)⟩

theorem wildcardMember_decodes (id : Nat) (below : id < wildcardMember.tables.typeCount) :
    ∃ data, wildcardMember.tables.typeData id = .ok data := by
  change id < 3 at below
  interval_cases id <;> exact ⟨_, rfl⟩

theorem wildcardMember_printsClass :
    wildcardMember.PrintsClass 0 "? extends demo.Foo$Inner" ∧
      wildcardMember.PrintsClass 2 "demo.Foo" :=
  ⟨⟨_, rfl, wildcardMember_qualifiedName 0 _ (by simp) rfl true⟩,
    _, rfl, wildcardMember_qualifiedName 2 _ (by simp) rfl true⟩

theorem resolve_printedName_wildcardMember :
    ∃ found, (wildcardMember.resolve ("demo.Foo" ++ arraySuffix 2)
        (wildcardMember.afterQuestions [.lookup "? extends demo.Foo$Inner"])).1 =
          .ok (some ⟨found, 2⟩) ∧ wildcardMember.GoesBy found "demo.Foo" :=
  resolve_printedName wildcardMember wildcardMember_decodes wildcardMember_printable
    wildcardMember_printsClass.2 (by decide) (by decide) [.lookup "? extends demo.Foo$Inner"] 2

/-- The name of the class in the wildcard is searched among wildcards. -/
theorem wildcardMember_resolve :
    (wildcardMember.resolve "? extends demo.Foo$Inner" .empty).1 = .ok none := by
  have dotted : '.' ∈ "? extends demo.Foo$Inner".toList := by decide
  have cut : splitDimensions "? extends demo.Foo$Inner" = ("? extends demo.Foo$Inner", 0) := by
    decide +kernel
  have searched : wildcardMember.searched "? extends demo.Foo$Inner" = [1] := by decide +kernel
  have other : wildcardMember.answersTo "? extends demo.Foo$Inner" 1 = false := by
    refine Bool.eq_false_iff.2 fun answers => ?_
    obtain ⟨view, seen, names⟩ := (wildcardMember_hasQualifiedNames (by decide)).goesBy
      wildcardMember_steadfast.detached dotted answers
    have given := wildcardMember_qualifiedName 1 "? extends demo.Foo" (by simp) seen
    have apart : "? extends demo.Foo" ≠ "? extends demo.Foo$Inner" := by decide
    rcases names with same | same
    · exact apart (Except.ok.inj ((given true).symm.trans same))
    · exact apart (Except.ok.inj ((given false).symm.trans same))
  obtain ⟨partitions, grouped⟩ := partitions_ok wildcardMember_decodes
  have sought := seek_always (Memory.trusted_empty wildcardMember) partitions_trusted grouped
    "? extends demo.Foo$Inner" (by
      rw [cut, searched]
      intro before id after split _
      have listed : id ∈ [1] := split ▸ List.mem_append_right before List.mem_cons_self
      obtain rfl := List.mem_singleton.1 listed
      exact (wildcardMember_hasQualifiedNames (by decide)).responds
        wildcardMember_steadfast.detached dotted ⟨_, rfl⟩)
  rw [cut, searched, List.find?_singleton, other] at sought
  exact resolve_of_seek wildcardMember_steadfast.detached dotted (by decide +kernel) [] sought

end Atlas

/-- A class, and a record that is no type. -/
def Snapshot.strayRecord : Snapshot :=
  { empty with
    types := [.object [("n", .nat 0), ("P", .nat 0)], .nat 5]
    names := [.text "Foo"]
    packages := [⟨"demo", none⟩] }

/-- The snapshot `strayRecord` with the usual settings. -/
def Atlas.strayRecord : Atlas :=
  ⟨.ofSnapshot .strayRecord, .default⟩

namespace Atlas

open Tables (textAlone_of_packaged)

theorem strayRecord_printable :
    strayRecord.Printable ∧ strayRecord.PrintsClass 0 "demo.Foo" := by
  have spelled : strayRecord.tables.Spelled := by
    constructor
    · rw [show strayRecord.tables.names = #[.text "Foo"] from rfl]
      simp only [List.mem_toArray, List.mem_cons, List.not_mem_nil, or_false]
      rintro entry rfl
      exact ⟨"Foo", rfl, by decide +kernel⟩
    · rw [show strayRecord.tables.packages = #[⟨"demo", none⟩] from rfl]
      simp only [List.mem_toArray, List.mem_cons, List.not_mem_nil, or_false]
      rintro entry rfl
      exact ⟨rfl, by decide +kernel⟩
  have unowned : strayRecord.tables.SupertypesUnowned := by
    intro id cls supertype record known listed
    have inside : id < 2 := Tables.typeData_lt known
    interval_cases id
    · cases known
      cases listed
    · cases known
  have steadfast : strayRecord.Steadfast := ⟨detached_of_unowned unowned, spelled.nested.legible⟩
  have given : ∀ view, strayRecord.tables.view (.plain 0) = .ok view → ∀ includeGenerics,
      (view.qualifiedName strayRecord includeGenerics .empty).1 = .ok "demo.Foo" := by
    intro view seen includeGenerics
    cases seen
    exact TypeView.qualifiedName_of_textAlone rfl (fun _ _ _ => rfl) steadfast rfl rfl
      (textAlone_of_packaged rfl rfl rfl rfl rfl rfl (by rfl) 0 rfl rfl)
  refine ⟨⟨spelled.worded, unowned, fun id data known _ => ?_⟩, _, rfl, given _ rfl true⟩
  have inside : id < 2 := Tables.typeData_lt known
  interval_cases id
  · exact fun view seen => ⟨⟨_, given view seen true⟩, _, given view seen false⟩
  · cases known

/-- The types cannot be grouped, so no name is searched. -/
theorem strayRecord_resolve :
    (strayRecord.resolve "demo.Foo" .empty).1 = .error (.unknownType 1 (.nat 5)) := by
  have cut : splitDimensions "demo.Foo" = ("demo.Foo", 0) := by decide +kernel
  have grouped : strayRecord.tables.partitions .empty =
      (.error (.unknownType 1 (.nat 5)), .empty) := rfl
  have sought : strayRecord.seek "demo.Foo" .empty =
      (.error (.unknownType 1 (.nat 5)), .empty) := by
    rw [seek, cut]
    dsimp only
    rw [if_neg (by decide +kernel), Work.bind_of_error grouped]
  have trimmed : Text.trimmed "demo.Foo" = "demo.Foo" := by decide +kernel
  have noNumber : ¬(!"demo.Foo".isEmpty && "demo.Foo".toList.all Text.isDigit) = true := by decide
  rw [resolve]
  simp only [trimmed]
  rw [if_neg noNumber, findByName_of_unknown strayRecord Std.HashMap.getElem?_empty, sought]

/-- **Two classes that are not found by the names that they are printed with**: one that is declared
in a wildcard, and one beside a record that cannot be read. -/
theorem printedName_unresolved :
    (wildcardMember.Printable ∧ wildcardMember.PrintsClass 0 "? extends demo.Foo$Inner" ∧
      (wildcardMember.resolve "? extends demo.Foo$Inner" .empty).1 = .ok none) ∧
    (strayRecord.Printable ∧ strayRecord.PrintsClass 0 "demo.Foo" ∧
      (strayRecord.resolve "demo.Foo" .empty).1 = .error (.unknownType 1 (.nat 5))) :=
  ⟨⟨wildcardMember_printable, wildcardMember_printsClass.1, wildcardMember_resolve⟩,
    strayRecord_printable.1, strayRecord_printable.2, strayRecord_resolve⟩

end Atlas

end ClassAtlas
