import ClassAtlas.Proofs.Answer.Listing
import ClassAtlas.Proofs.Lookup
import ClassAtlas.Proofs.Text.Pieces
import ClassAtlas.Shell.Completion
import Mathlib.Data.List.TakeWhile

/-!
# What a suggestion replaces

A suggestion says which bytes of the line it stands for, counted back from the cursor by the size of
the word that it was made for.  The word is found another way: a command from the leading blanks on,
a class as the last word before the cursor, whatever blanks there are behind it
(`Suggestion.MadeFor`).

So the bytes of a command are those of the word.  The bytes of a class are those of the word exactly
when no blank stands between the word and the cursor (`completions_replace`).  Right behind a space
there are no suggestions at all, but behind any other blank there are, and their bytes lie beside
the word (`completions_behindTab`).
-/

set_option autoImplicit false

namespace ClassAtlas.Shell

open Text (isBlank words trimStart)

/-! ## Bytes of a line -/

theorem byteSize_append (left right : List Char) :
    byteSize (left ++ right) = byteSize left + byteSize right := by
  induction left with
  | nil => exact (Nat.zero_add _).symm
  | cons c rest ih => exact (congrArg (c.utf8Size + ·) ih).trans (Nat.add_assoc ..).symm

/-- A part of a line lies within its own bytes. -/
theorem before_append (front back : List Char) :
    before (byteSize front) (front ++ back) = front := by
  induction front with
  | nil =>
    cases back with
    | nil => rfl
    | cons c rest => exact if_neg (Nat.not_le_of_lt c.utf8Size_pos)
  | cons c rest ih =>
    have size : byteSize (c :: rest) = c.utf8Size + byteSize rest := rfl
    rw [List.cons_append, before, size, if_pos (Nat.le_add_right _ _), Nat.add_sub_cancel_left, ih]

/-- Two beginnings of a line with as many bytes are the same. -/
theorem eq_of_byteSize {front back other rest : List Char} (same : front ++ back = other ++ rest)
    (size : byteSize front = byteSize other) : front = other := by
  rw [← before_append front back, same, size, before_append]

/-- The bytes of a line from `start` up to `stop` are those of a text that is written there. -/
def Spans (line : List Char) (start stop : Nat) (text : List Char) : Prop :=
  ∃ front back, line = front ++ text ++ back ∧ byteSize front = start ∧
    start + byteSize text = stop

/-- As many bytes as a text has, counted back from the end, are those of a text that ends there. -/
theorem spans_append {front text : List Char} (back : List Char) {start : Nat}
    (size : start + byteSize text = byteSize (front ++ text)) :
    Spans (front ++ text ++ back) start (byteSize (front ++ text)) text := by
  refine ⟨front, back, rfl, ?_, size⟩
  rw [byteSize_append] at size
  exact (Nat.add_right_cancel size).symm

/-! ## The last word -/

/-- The last word of a text, and the blanks behind it. -/
structure LastWord (typed word blanks : List Char) : Prop where
  written : ∃ front, typed = front ++ word ++ blanks ∧ ∀ c ∈ front.getLast?, isBlank c = true
  nonempty : word ≠ []
  visible : ∀ c ∈ word, isBlank c = false
  blank : ∀ c ∈ blanks, isBlank c = true

variable {typed word blanks rest : List Char}

theorem LastWord.getLast?_words (last : LastWord typed word blanks) :
    (words typed).getLast? = some word := by
  obtain ⟨front, rfl, before⟩ := last.written
  rw [Text.words_append_blanks _ last.blank]
  rcases List.eq_nil_or_concat' front with rfl | ⟨init, c, rfl⟩
  · rw [List.nil_append, Text.words_of_visible last.nonempty last.visible]
    rfl
  · have blank : isBlank c = true := before c (by simp)
    rw [List.append_assoc, List.singleton_append, Text.words_append_blank blank,
      Text.words_of_visible last.nonempty last.visible, List.getLast?_concat]

theorem exists_lastWord (last : (words typed).getLast? = some word) :
    ∃ blanks, LastWord typed word blanks := by
  obtain ⟨body, blanks, rfl, blank, body_last⟩ := Text.exists_longest_end isBlank typed
  obtain ⟨front, own, rfl, visible, before⟩ := Text.exists_longest_end (fun c => !isBlank c) body
  simp only [Bool.not_eq_true', Bool.not_eq_false'] at visible before
  have nonempty : own ≠ [] := by
    rintro rfl
    rw [List.append_nil] at body_last last
    rcases List.eq_nil_or_concat' front with rfl | ⟨init, c, rfl⟩
    · rw [List.nil_append, Text.words_of_blanks blank] at last
      cases last
    · cases (before c (by simp)).symm.trans (body_last c (by simp))
  have own_last : LastWord (front ++ own ++ blanks) own blanks :=
    ⟨⟨front, rfl, before⟩, nonempty, visible, blank⟩
  obtain rfl := Option.some.inj (own_last.getLast?_words.symm.trans last)
  exact ⟨blanks, own_last⟩

/-- Blanks in front of a text make no difference. -/
theorem LastWord.behind {lead : List Char} (last : LastWord typed word blanks)
    (blank : ∀ c ∈ lead, isBlank c = true) : LastWord (lead ++ typed) word blanks := by
  obtain ⟨front, rfl, before⟩ := last.written
  refine { last with written := ⟨lead ++ front, by simp only [List.append_assoc], ?_⟩ }
  intro c member
  rw [List.getLast?_append, Option.mem_def, Option.or_eq_some_iff] at member
  rcases member with member | ⟨-, member⟩
  · exact before c member
  · exact blank c (List.mem_of_getLast? member)

theorem LastWord.blanks_eq_nil_iff (last : LastWord typed word blanks) :
    blanks = [] ↔ ∀ c ∈ typed.getLast?, isBlank c = false := by
  obtain ⟨front, rfl, -⟩ := last.written
  constructor
  · rintro rfl c member
    rw [List.append_nil, List.getLast?_append_of_ne_nil _ last.nonempty] at member
    exact last.visible c (List.mem_of_getLast? member)
  · intro visible
    rcases List.eq_nil_or_concat' blanks with none | ⟨init, c, rfl⟩
    · exact none
    · cases (visible c (by simp)).symm.trans (last.blank c (by simp))

/-- **As many bytes as the last word has, counted back from the end, are those of the word exactly
when no blank stands behind it.** -/
theorem LastWord.spans_iff (last : LastWord typed word blanks) (rest : List Char) {start : Nat}
    (size : start + byteSize word = byteSize typed) :
    Spans (typed ++ rest) start (byteSize typed) word ↔ blanks = [] := by
  constructor
  · rintro ⟨other, back, same, rfl, -⟩
    have ends : typed = other ++ word := eq_of_byteSize same (by rw [← size, byteSize_append])
    refine last.blanks_eq_nil_iff.2 fun c member => last.visible c ?_
    rw [ends, List.getLast?_append_of_ne_nil _ last.nonempty] at member
    exact List.mem_of_getLast? member
  · rintro rfl
    obtain ⟨front, rfl, -⟩ := last.written
    rw [List.append_nil] at size ⊢
    exact spans_append rest size

/-! ## What suggestions are made for -/

/-- The word that a suggestion was made for, and the blanks between it and the cursor: a command for
all that is typed behind leading blanks, and a class for the last word. -/
inductive Suggestion.MadeFor (typed : List Char) (suggestion : Suggestion) :
    (word blanks : List Char) → Prop where
  | command {lead word : List Char} (written : typed = lead ++ word)
      (blank : ∀ c ∈ lead, isBlank c = true) (visible : ∀ c ∈ word, isBlank c = false)
      (listed : suggestion.value ∈ commandNames) (starts : word <+: suggestion.value.toList)
      (plain : suggestion.description = none) : MadeFor typed suggestion word []
  | name {word blanks : List Char} (last : LastWord typed word blanks)
      (unspaced : typed.getLast? ≠ some ' ')
      (starts : nameStartsWith word suggestion.value.toList = true)
      (described : suggestion.description = some "class") : MadeFor typed suggestion word blanks

/-- A suggestion with a description was made for the last word. -/
theorem Suggestion.MadeFor.lastWord {suggestion : Suggestion}
    (made : suggestion.MadeFor typed word blanks) (described : suggestion.description ≠ none) :
    LastWord typed word blanks := by
  cases made with
  | command _ _ _ _ _ plain => exact absurd plain described
  | name last => exact last

theorem commandNames_visible : ∀ name ∈ commandNames, ∀ c ∈ name.toList, isBlank c = false := by
  have none : (commandNames.any fun name => name.toList.any isBlank) = false := by decide +kernel
  simpa only [List.any_eq_false, Bool.not_eq_true] using none

/-- What is typed is blanks and the rest of it. -/
theorem exists_lead (typed : List Char) :
    ∃ lead, typed = lead ++ trimStart typed ∧ ∀ c ∈ lead, isBlank c = true :=
  ⟨typed.takeWhile isBlank, List.takeWhile_append_dropWhile.symm, fun _ => List.mem_takeWhile_imp⟩

/-- A suggested command was made for all that is typed. -/
theorem madeFor_command {suggestion : Suggestion} {cursor : Nat}
    (listed : suggestion ∈ commandSuggestions (trimStart typed) cursor) :
    suggestion.MadeFor typed (trimStart typed) [] ∧
      suggestion = .replacing (trimStart typed) cursor none suggestion.value := by
  obtain ⟨name, known, rfl⟩ := List.mem_map.1 listed
  obtain ⟨known, starts⟩ := List.mem_filter.1 known
  have starts := List.isPrefixOf_iff_prefix.1 starts
  obtain ⟨lead, written, blank⟩ := exists_lead typed
  refine ⟨.command written blank (fun c inside => ?_) known starts rfl, rfl⟩
  exact commandNames_visible name known c (starts.subset inside)

/-- The names that are suggested start with the word. -/
theorem matchingNames_meets (atlas : Atlas) (word : List Char) (limit : Nat) (ids : List Nat) :
    Work.Meets (fun _ => True) (matchingNames atlas word limit ids)
      (fun names => ∀ name ∈ names, nameStartsWith word name.toList = true) fun _ => True := by
  induction ids generalizing limit with
  | nil =>
    cases limit <;> exact Work.meets_pure (List.forall_mem_nil _)
  | cons id rest ih =>
    cases limit with
    | zero => exact Work.meets_pure (List.forall_mem_nil _)
    | succ limit =>
      refine (Work.meets_true _).bind fun named _ => ?_
      cases named with
      | error fault => exact ih (limit + 1)
      | ok name =>
        simp only
        split
        · next starts =>
          refine (ih limit).bind fun others all => Work.meets_pure ?_
          exact List.forall_mem_cons.2 ⟨starts, all⟩
        · exact ih (limit + 1)

theorem classNames_meets (atlas : Atlas) (word : List Char) :
    Work.Meets (fun _ => True) (classNames atlas word)
      (fun names => ∀ name ∈ names, nameStartsWith word name.toList = true) fun _ => True := by
  refine (Work.meets_true _).bind fun grouped _ => ?_
  cases grouped with
  | ok partitions => exact matchingNames_meets atlas word _ _
  | error fault => exact Work.meets_pure (List.forall_mem_nil _)

/-- A class is wanted for the last word of what is typed, and not right behind a space. -/
theorem exists_lastWord_of_wantsClass (wanted : wantsClass (trimStart typed) = true) :
    (∃ blanks, LastWord typed (lastWord (trimStart typed)) blanks) ∧
      typed.getLast? ≠ some ' ' := by
  obtain ⟨lead, written, blank⟩ := exists_lead typed
  generalize trimStart typed = command at wanted written
  have nonempty : lastWord command ≠ [] := by
    intro none
    simp [wantsClass, none] at wanted
  have unspaced : command.getLast? ≠ some ' ' := by
    intro spaced
    exact nonempty (by rw [lastWord, spaced]; rfl)
  have last : (words command).getLast? = some (lastWord command) := by
    rw [lastWord, if_neg (by simpa using unspaced)] at nonempty ⊢
    cases found : (words command).getLast? with
    | none =>
      rw [found] at nonempty
      exact absurd rfl nonempty
    | some word => rfl
  obtain ⟨blanks, own⟩ := exists_lastWord last
  have something : command ≠ [] := by
    rintro rfl
    cases last
  refine ⟨⟨blanks, written ▸ own.behind blank⟩, ?_⟩
  rwa [written, List.getLast?_append_of_ne_nil _ something]

/-- A suggestion is made as large as its word, if the word is not longer than what is typed. -/
theorem replacing_size {description : Option String} {value : String} {front cursor : Nat}
    (size : front + byteSize word = cursor) :
    (Suggestion.replacing word cursor description value).start + byteSize word = cursor := by
  show cursor - byteSize word + byteSize word = cursor
  omega

/-- A suggested class has a name that starts with the word. -/
theorem madeFor_name {session : Session} {cursor : Nat} {suggestion : Suggestion}
    (listed : suggestion ∈ ((match (session.work fun atlas => classNames atlas word).1 with
      | .ok names => names.map (Suggestion.replacing word cursor (some "class"))
      | .error _ => []).mergeSort Suggestion.precedes)) :
    nameStartsWith word suggestion.value.toList = true ∧
      suggestion = .replacing word cursor (some "class") suggestion.value := by
  rw [List.mem_mergeSort] at listed
  have names := (classNames_meets session.atlas word session.memory trivial).2
  have given : (session.work fun atlas => classNames atlas word).1 =
      (classNames session.atlas word session.memory).1 := rfl
  rw [given] at listed
  cases found : (classNames session.atlas word session.memory).1 with
  | error fault =>
    rw [found] at listed
    cases listed
  | ok all =>
    rw [found] at listed names
    obtain ⟨name, known, rfl⟩ := List.mem_map.1 listed
    exact ⟨names name known, rfl⟩

/-- **What a suggestion replaces.**  With the cursor behind what is typed, every suggestion ends at
the cursor and has as many bytes as the word that it was made for.  These are the bytes of the word
exactly when there are no blanks between the word and the cursor. -/
theorem completions_replace (session : Session) {line : String}
    (cut : line.toList = typed ++ rest) :
    ∀ suggestion ∈ (completions session line (byteSize typed)).1, ∃ word blanks,
      suggestion.MadeFor typed word blanks ∧ suggestion.stop = byteSize typed ∧
        suggestion.start + byteSize word = byteSize typed ∧
        (Spans line.toList suggestion.start suggestion.stop word ↔ blanks = []) := by
  have front : before (byteSize typed) line.toList = typed := cut ▸ before_append typed rest
  intro suggestion suggested
  rw [completions, front] at suggested
  simp only at suggested
  split at suggested
  · obtain ⟨made, same⟩ := madeFor_command suggested
    obtain ⟨lead, written, -⟩ := exists_lead typed
    clear suggested
    generalize trimStart typed = command at made same written
    subst written
    have start : suggestion.start + byteSize command = byteSize (lead ++ command) :=
      same ▸ replacing_size (byteSize_append lead command).symm
    have stop : suggestion.stop = byteSize (lead ++ command) := congrArg Suggestion.stop same
    refine ⟨command, [], made, stop, start, iff_of_true ?_ rfl⟩
    rw [cut, stop]
    exact spans_append rest start
  · split at suggested
    · cases suggested
    · next wanted =>
      split at suggested
      · cases suggested
      · obtain ⟨starts, same⟩ := madeFor_name suggested
        obtain ⟨⟨blanks, last⟩, unspaced⟩ :=
          exists_lastWord_of_wantsClass (by simpa using wanted)
        generalize lastWord (trimStart typed) = word at starts same last
        obtain ⟨front, written, -⟩ := last.written
        have size : byteSize front + byteSize blanks + byteSize word = byteSize typed := by
          rw [written, byteSize_append, byteSize_append, Nat.add_right_comm]
        have start : suggestion.start + byteSize word = byteSize typed :=
          same ▸ replacing_size size
        have stop : suggestion.stop = byteSize typed := congrArg Suggestion.stop same
        refine ⟨word, blanks, .name last unspaced starts ?_, stop, start, ?_⟩
        · exact congrArg Suggestion.description same
        · rw [cut, stop]
          exact last.spans_iff rest start

end ClassAtlas.Shell

/-! ## A class named Box -/

namespace ClassAtlas

/-- A class and nothing else. -/
def Snapshot.loneBox : Snapshot :=
  { empty with types := [.object [("n", .nat 0)]], names := [.text "Box"] }

/-- A session on `loneBox` that has just taken over a stored index. -/
def Session.loneBox : Session :=
  { ofSnapshot .default .loneBox with
    state := .ready
    index? := some ⟨.empty, ⟨[], [], [], [0]⟩, [], [], []⟩
    loadedFromCache := true
    memory := { Memory.empty with partitions := some ⟨[], [], [], [0]⟩ } }

namespace Shell

theorem classNames_loneBox : ∃ after,
    classNames Session.loneBox.atlas ['B'] Session.loneBox.memory = (.ok ["Box"], after) := by
  obtain ⟨record, known, bare, entry, unpackaged⟩ : ∃ record,
      Session.loneBox.atlas.tables.typeData 0 = .ok (.rawClass record) ∧ record.Bare ∧
        Session.loneBox.atlas.tables.names[record.name]? = some (.text "Box") ∧
        record.package = none :=
    ⟨_, rfl, ⟨rfl, rfl, rfl⟩, rfl, rfl⟩
  have seen : Session.loneBox.atlas.tables.view (.plain 0) =
      .ok ⟨.plain 0, .rawClass record, .empty⟩ := Outcome.bind_eq_ok.2 ⟨_, known, rfl⟩
  obtain ⟨after, named⟩ : ∃ after, TypeView.qualifiedName ⟨.plain 0, .rawClass record, .empty⟩
      Session.loneBox.atlas false Session.loneBox.memory = (.ok "Box", after) :=
    TypeView.nameWith_of_bare known bare rfl rfl rfl entry true false fun _ => unpackaged
  have tried : Work.attempt (do
      let view ← Work.lift (Session.loneBox.atlas.tables.view (.plain 0))
      view.qualifiedName Session.loneBox.atlas false) Session.loneBox.memory =
        (.ok (.ok "Box"), after) := by
    rw [seen, Work.attempt, Work.bind_of_ok (Work.lift_apply _ _), named]
  have grouped : Work.attempt Session.loneBox.atlas.tables.partitions Session.loneBox.memory =
      (.ok (.ok ⟨[], [], [], [0]⟩), Session.loneBox.memory) := rfl
  refine ⟨after, ?_⟩
  rw [classNames, Work.bind_of_ok grouped]
  simp only
  rw [show maxClassSuggestions = 19 + 1 from rfl, matchingNames, Work.bind_of_ok tried]
  simp only
  rw [if_pos (by decide +kernel)]
  rfl

/-- The class is suggested for a line that asks for one and whose last word is a B. -/
theorem completions_loneBox {line : String} {typed : List Char} {cursor : Nat}
    (front : Text.trimStart (before cursor line.toList) = typed)
    (spaced : typed.contains ' ' = true) (wanted : wantsClass typed = true)
    (last : lastWord typed = ['B']) :
    (completions .loneBox line cursor).1 = [⟨"Box", some "class", cursor - 1, cursor⟩] := by
  obtain ⟨after, names⟩ := classNames_loneBox
  have worked : (Session.loneBox.work fun atlas => classNames atlas ['B']) =
      (.ok ["Box"], { Session.loneBox with memory := after }) := by
    rw [Session.work, names]
  have ready : Session.loneBox.ready = .ok _ := rfl
  rw [completions, front]
  simp only [spaced, wanted, ready, last, worked, Bool.not_true, Bool.false_eq_true, if_false]
  rw [List.map_singleton, List.mergeSort_singleton]
  rfl

/-- Behind a B the suggestion replaces this B. -/
theorem completions_replace_loneBox :
    ∃ suggestion ∈ (completions .loneBox "show B" 6).1, suggestion.value = "Box" ∧
      Spans "show B".toList suggestion.start suggestion.stop ['B'] := by
  have suggested : (completions .loneBox "show B" 6).1 = [⟨"Box", some "class", 5, 6⟩] :=
    completions_loneBox rfl (by decide +kernel) (by decide +kernel) (by decide +kernel)
  have member : ⟨"Box", some "class", 5, 6⟩ ∈ (completions .loneBox "show B" 6).1 :=
    suggested ▸ List.mem_singleton_self _
  have cut : "show B".toList = "show B".toList ++ [] := rfl
  refine ⟨_, member, rfl, ?_⟩
  obtain ⟨word, blanks, made, -, -, spans⟩ := completions_replace .loneBox cut _ member
  have last := made.lastWord (by decide)
  have own : (Text.words "show B".toList).getLast? = some ['B'] := by decide +kernel
  obtain rfl := Option.some.inj (last.getLast?_words.symm.trans own)
  have final : "show B".toList.getLast? = some 'B' := by decide +kernel
  refine spans.2 (last.blanks_eq_nil_iff.2 fun c member => ?_)
  obtain rfl := Option.some.inj (final.symm.trans member)
  rfl

/-- **Behind a tabulator the suggestion replaces the tabulator**, not the B that it was made for. -/
theorem completions_behindTab :
    ¬∀ suggestion ∈ (completions .loneBox "show B\t" 7).1, ∃ word blanks,
      suggestion.MadeFor "show B\t".toList word blanks ∧ suggestion.stop = 7 ∧
        Spans "show B\t".toList suggestion.start suggestion.stop word := by
  have suggested : (completions .loneBox "show B\t" 7).1 = [⟨"Box", some "class", 6, 7⟩] :=
    completions_loneBox rfl (by decide +kernel) (by decide +kernel) (by decide +kernel)
  intro replaced
  rw [suggested] at replaced
  obtain ⟨word, blanks, made, -, spans⟩ := replaced _ (List.mem_singleton_self _)
  have last := made.lastWord (by decide)
  have own : (Text.words "show B\t".toList).getLast? = some ['B'] := by decide +kernel
  obtain rfl := Option.some.inj (last.getLast?_words.symm.trans own)
  have none : blanks = [] := (last.spans_iff [] (by decide +kernel)).1 spans
  exact absurd (last.blanks_eq_nil_iff.1 none '\t' (by decide +kernel)) (by decide)

end Shell

end ClassAtlas
