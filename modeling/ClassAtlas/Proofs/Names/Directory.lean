import ClassAtlas.Names
import ClassAtlas.Proofs.Descent
import ClassAtlas.Proofs.Following
import Mathlib.Data.Finset.Filter

/-!
# Tables of entries that refer to each other

Names and packages are resolved in the same way: an entry is looked up in what is remembered, or it
is put together from the entries that it refers to, and there is a limit to how deep that may go.
What the two have in common is a `Directory`.

With true texts in memory an entry gets its true text (`settles`).  Without memory exactly those
entries are resolved that are nested within the limit and lead only to entries of the table
(`resolves_empty_iff`).

What was remembered after any sequence of earlier requests is true (`after_spells`), so it makes no
entry resolve that leads to a cycle or out of the table (`not_broken`).  But it shortens the way:
after enough requests every other entry is resolved, however deep it is nested (`remembers_survey`).
So an entry is resolved independently of earlier requests if and only if it is broken or nested
within the limit (`steady_iff`).
-/

set_option autoImplicit false

namespace ClassAtlas

open Relation (ReflTransGen TransGen)

/-- What holds of each entry of a list from some level on holds of all of them from some level
on. -/
theorem exists_enough {ids : List Nat} {holds : Nat → Nat → Prop}
    (each : ∀ id ∈ ids, ∃ enough, ∀ levels, enough ≤ levels → holds levels id) :
    ∃ enough, ∀ levels, enough ≤ levels → ∀ id ∈ ids, holds levels id := by
  induction ids with
  | nil => exact ⟨0, fun _ _ => List.forall_mem_nil _⟩
  | cons id rest ih =>
    obtain ⟨here, others⟩ := List.forall_mem_cons.1 each
    obtain ⟨enough, given⟩ := here
    obtain ⟨more, given'⟩ := ih others
    refine ⟨max enough more, fun levels above => List.forall_mem_cons.2 ⟨?_, ?_⟩⟩
    · exact given levels (Nat.le_trans (Nat.le_max_left _ _) above)
    · exact given' levels (Nat.le_trans (Nat.le_max_right _ _) above)

/-- A table of entries, how one of them is read when the texts of the entries that it refers to are
given, and how an entry is resolved with some texts in memory and some levels left. -/
structure Directory (ε : Type) where
  entries : Array ε
  refers : ε → List Nat
  read : (Nat → Except Fault String) → ε → Except Fault String
  resolve : Std.HashMap Nat String → Nat → Nat → Except Fault String
  missing : Nat → Fault
  tooDeep : Nat → Fault
  absent : ∀ {id}, entries[id]? = none →
    ∀ known levels, resolve known levels id = .error (missing id)
  recalls : ∀ {known id text entry}, entries[id]? = some entry → known[id]? = some text →
    ∀ levels, resolve known levels id = .ok text
  stops : ∀ {known id entry}, entries[id]? = some entry → known[id]? = none →
    resolve known 0 id = .error (tooDeep id)
  steps : ∀ {known id entry}, entries[id]? = some entry → known[id]? = none →
    ∀ levels, resolve known (levels + 1) id = read (resolve known levels) entry
  read_iff : ∀ {inner entry}, (∃ text, read inner entry = .ok text) ↔
    ∀ other ∈ refers entry, ∃ text, inner other = .ok text
  read_congr : ∀ {inner inner' entry}, (∀ other ∈ refers entry, inner other = inner' other) →
    read inner entry = read inner' entry
  read_error : ∀ {inner entry fault}, read inner entry = .error fault →
    ∃ other ∈ refers entry, inner other = .error fault
  missing_final : ∀ id, (missing id).Final
  tooDeep_final : ∀ id, (tooDeep id).Final

namespace Directory

variable {ε : Type} (dir : Directory ε)

/-- One entry refers to another one. -/
def Refers (id other : Nat) : Prop :=
  ∃ entry, dir.entries[id]? = some entry ∧ other ∈ dir.refers entry

/-- The text of an entry without memory. -/
def Spells (id : Nat) (text : String) : Prop :=
  Outcome.Settles (fun levels => dir.resolve ∅ levels id) text

/-- An entry leads only to entries of the table. -/
def Whole (id : Nat) : Prop :=
  ∀ other, ReflTransGen dir.Refers id other → other < dir.entries.size

/-- An entry leads to a cycle or out of the table. -/
def Broken (id : Nat) : Prop :=
  ∃ other, ReflTransGen dir.Refers id other ∧
    (TransGen dir.Refers other other ∨ dir.entries.size ≤ other)

/-- What is remembered after one more request. -/
def ask (known : Std.HashMap Nat String) (id : Nat) : Std.HashMap Nat String :=
  match dir.resolve known (chainLimit + 1) id with
  | .ok text => known.insert id text
  | .error _ => known

/-- What is remembered after some requests, whether they gave texts or faults. -/
def after (ids : List Nat) : Std.HashMap Nat String :=
  ids.foldl dir.ask ∅

/-- The answer after some requests. -/
def answer (ids : List Nat) (id : Nat) : Except Fault String :=
  dir.resolve (dir.after ids) (chainLimit + 1) id

variable {dir} {known : Std.HashMap Nat String} {levels id : Nat} {text : String}

/-! ## Which entries are resolved -/

variable (dir) in
/-- A resolution does one of four things: the entry is not in the table, it is remembered, no level
is left for it, or it is read with one level less. -/
theorem resolve_cases (known : Std.HashMap Nat String) (levels id : Nat) :
    (dir.entries[id]? = none ∧ dir.resolve known levels id = .error (dir.missing id)) ∨
      ∃ entry, dir.entries[id]? = some entry ∧
        ((∃ text, known[id]? = some text ∧ dir.resolve known levels id = .ok text) ∨
          (known[id]? = none ∧ levels = 0 ∧
            dir.resolve known levels id = .error (dir.tooDeep id)) ∨
          (known[id]? = none ∧ ∃ less, levels = less + 1 ∧
            dir.resolve known levels id = dir.read (dir.resolve known less) entry)) := by
  cases listed : dir.entries[id]? with
  | none => exact .inl ⟨rfl, dir.absent listed known levels⟩
  | some entry =>
    refine .inr ⟨entry, rfl, ?_⟩
    cases found : known[id]? with
    | some text => exact .inl ⟨text, rfl, dir.recalls listed found levels⟩
    | none =>
      cases levels with
      | zero => exact .inr (.inl ⟨rfl, rfl, dir.stops listed found⟩)
      | succ levels => exact .inr (.inr ⟨rfl, levels, rfl, dir.steps listed found levels⟩)

/-- An entry that is resolved is in the table. -/
theorem present (resolved : dir.resolve known levels id = .ok text) :
    ∃ entry, dir.entries[id]? = some entry := by
  rcases dir.resolve_cases known levels id with ⟨_, given⟩ | ⟨entry, listed, _⟩
  · cases given.symm.trans resolved
  · exact ⟨entry, listed⟩

/-- An entry of the table is resolved if it is remembered, or with a level left for the entry itself
if all that it refers to is resolved. -/
theorem resolves_iff :
    (∃ text, dir.resolve known levels id = .ok text) ↔
      id < dir.entries.size ∧ ((∃ text, known[id]? = some text) ∨
        ∃ less, levels = less + 1 ∧ ∀ other, dir.Refers id other →
          ∃ text, dir.resolve known less other = .ok text) := by
  constructor
  · rintro ⟨text, resolved⟩
    obtain ⟨_, given⟩ | ⟨entry, listed, step⟩ := dir.resolve_cases known levels id
    · cases given.symm.trans resolved
    · refine ⟨(Array.getElem?_eq_some_iff.1 listed).1, ?_⟩
      obtain ⟨older, found, _⟩ | ⟨_, _, given⟩ | ⟨_, less, rfl, given⟩ := step
      · exact .inl ⟨older, found⟩
      · cases given.symm.trans resolved
      · refine .inr ⟨less, rfl, ?_⟩
        rintro other ⟨_, listed', refers⟩
        cases listed.symm.trans listed'
        exact dir.read_iff.1 ⟨text, given.symm.trans resolved⟩ other refers
  · rintro ⟨inside, either⟩
    have listed := Array.getElem?_eq_getElem inside
    cases found : known[id]? with
    | some older => exact ⟨older, dir.recalls listed found levels⟩
    | none =>
      obtain ⟨text, remembered⟩ | ⟨less, rfl, each⟩ := either
      · cases found.symm.trans remembered
      · rw [dir.steps listed found]
        exact dir.read_iff.2 fun other refers => each other ⟨_, listed, refers⟩

/-- More levels than an entry is nested make no difference. -/
theorem resolve_of_within {more : Nat} (within : Descent.Within dir.Refers levels id)
    (enough : levels ≤ more) : dir.resolve ∅ more id = dir.resolve ∅ levels id := by
  induction levels generalizing more id with
  | zero => cases within
  | succ levels ih =>
    obtain ⟨more, rfl⟩ := Nat.exists_eq_add_one_of_ne_zero (Nat.ne_zero_of_lt enough)
    cases listed : dir.entries[id]? with
    | none => rw [dir.absent listed, dir.absent listed]
    | some entry =>
      rw [dir.steps listed Std.HashMap.getElem?_empty,
        dir.steps listed Std.HashMap.getElem?_empty]
      apply dir.read_congr
      intro other refers
      exact ih (within other ⟨entry, listed, refers⟩) (Nat.le_of_succ_le_succ enough)

/-- With true texts in memory an entry has its true text. -/
theorem settles (truths : ∀ {id text}, known[id]? = some text → dir.Spells id text)
    (resolved : dir.resolve known levels id = .ok text) : dir.Spells id text := by
  induction levels using Nat.strong_induction_on generalizing id text with
  | _ levels ih =>
    obtain ⟨_, given⟩ | ⟨entry, listed, step⟩ := dir.resolve_cases known levels id
    · cases given.symm.trans resolved
    · obtain ⟨older, found, given⟩ | ⟨_, _, given⟩ | ⟨_, less, rfl, given⟩ := step
      · cases given.symm.trans resolved
        exact truths found
      · cases given.symm.trans resolved
      · rw [given] at resolved
        -- from some level on all that the entry refers to has the text that it was read with
        obtain ⟨enough, same⟩ := exists_enough fun other refers => by
          obtain ⟨part, inner⟩ := dir.read_iff.1 ⟨text, resolved⟩ other refers
          obtain ⟨enough, settled⟩ := ih less (Nat.lt_succ_self less) inner
          exact ⟨enough, fun levels above => (settled levels above).trans inner.symm⟩
        have read : Outcome.Settles (fun levels => dir.read (dir.resolve ∅ levels) entry) text :=
          ⟨enough, fun levels above => (dir.read_congr (same levels above)).trans resolved⟩
        exact read.of_succ (dir.steps listed Std.HashMap.getElem?_empty)

/-! ## How deep an entry is nested -/

theorem whole_iff : dir.Whole id ↔
    id < dir.entries.size ∧ ∀ other, dir.Refers id other → dir.Whole other := by
  constructor
  · intro whole
    exact ⟨whole id .refl, fun other refers last way => whole last (.head refers way)⟩
  · rintro ⟨inside, rest⟩ last way
    rcases way.cases_head with rfl | ⟨other, refers, way⟩
    · exact inside
    · exact rest other refers last way

/-- Whatever is remembered, an entry is resolved that is nested within the levels. -/
theorem resolves_of_within (within : Descent.Within dir.Refers levels id) (whole : dir.Whole id) :
    ∃ text, dir.resolve known levels id = .ok text := by
  induction levels generalizing id with
  | zero => cases within
  | succ levels ih =>
    obtain ⟨inside, rest⟩ := whole_iff.1 whole
    apply resolves_iff.2
    exact ⟨inside, .inr ⟨levels, rfl, fun other refers =>
      ih (within other refers) (rest other refers)⟩⟩

/-- Without memory no other entries are resolved. -/
theorem resolves_empty_iff :
    (∃ text, dir.resolve ∅ levels id = .ok text) ↔
      Descent.Within dir.Refers levels id ∧ dir.Whole id := by
  refine ⟨fun resolves => ?_, fun ⟨within, whole⟩ => resolves_of_within within whole⟩
  induction levels generalizing id with
  | zero =>
    obtain ⟨_, ⟨text, found⟩ | ⟨less, none, _⟩⟩ := resolves_iff.1 resolves
    · rw [Std.HashMap.getElem?_empty] at found
      cases found
    · cases none
  | succ levels ih =>
    obtain ⟨inside, ⟨text, found⟩ | ⟨less, same, rest⟩⟩ := resolves_iff.1 resolves
    · rw [Std.HashMap.getElem?_empty] at found
      cases found
    · cases same
      exact ⟨fun other refers => (ih (rest other refers)).1,
        whole_iff.2 ⟨inside, fun other refers => (ih (rest other refers)).2⟩⟩

/-- An entry that is not resolved ends in a final fault and has no text without memory either. -/
theorem final_of_error {fault : Fault} (refused : dir.resolve known levels id = .error fault) :
    fault.Final ∧ ∀ text, dir.resolve ∅ levels id ≠ .ok text := by
  constructor
  · induction levels using Nat.strong_induction_on generalizing id with
    | _ levels ih =>
      obtain ⟨_, given⟩ | ⟨entry, listed, step⟩ := dir.resolve_cases known levels id
      · cases given.symm.trans refused
        exact dir.missing_final id
      · obtain ⟨text, _, given⟩ | ⟨_, _, given⟩ | ⟨_, less, rfl, given⟩ := step
        · cases given.symm.trans refused
        · cases given.symm.trans refused
          exact dir.tooDeep_final id
        · obtain ⟨other, -, inner⟩ := dir.read_error (given.symm.trans refused)
          exact ih less (Nat.lt_succ_self less) inner
  · intro text fresh
    obtain ⟨within, whole⟩ := resolves_empty_iff.1 ⟨text, fresh⟩
    obtain ⟨text, resolved⟩ : ∃ text, dir.resolve known levels id = .ok text :=
      resolves_of_within within whole
    cases resolved.symm.trans refused

/-- An entry with a text leads neither to a cycle nor out of the table. -/
theorem not_broken (spells : dir.Spells id text) : ¬dir.Broken id := by
  obtain ⟨levels, given⟩ := spells
  obtain ⟨within, whole⟩ := resolves_empty_iff.1 ⟨text, given levels (Nat.le_refl levels)⟩
  rintro ⟨other, way, cycle | outside⟩
  · exact Descent.not_cycle_of_ends within.ends way cycle
  · exact Nat.not_lt_of_le outside (whole other way)

theorem whole_of_not_broken (sound : ¬dir.Broken id) : dir.Whole id := by
  intro other way
  exact Nat.lt_of_not_le fun outside => sound ⟨other, way, .inr outside⟩

/-- An entry that leads neither to a cycle nor out of the table is nested somehow deep. -/
theorem exists_within (sound : ¬dir.Broken id) : ∃ levels, Descent.Within dir.Refers levels id := by
  classical
  have whole := whole_of_not_broken sound
  let reached := (Finset.range dir.entries.size).filter (ReflTransGen dir.Refers id)
  have mem_reached : ∀ {other}, other ∈ reached ↔ ReflTransGen dir.Refers id other := by
    intro other
    rw [Finset.mem_filter, Finset.mem_range, and_iff_right_of_imp (whole other)]
  refine ⟨reached.card, Descent.within_of_acyclic ?_ (mem_reached.2 .refl) ?_⟩
  · intro outer here inner refers
    exact mem_reached.2 ((mem_reached.1 here).tail refers)
  · exact fun other way cycle => sound ⟨other, way, .inl cycle⟩

/-! ## What is remembered -/

theorem after_append (ids more : List Nat) :
    dir.after (ids ++ more) = more.foldl dir.ask (dir.after ids) :=
  List.foldl_append

/-- A request keeps what is remembered. -/
theorem ask_keeps {other : Nat} (remembers : ∃ text, known[id]? = some text) :
    ∃ text, (dir.ask known other)[id]? = some text := by
  rw [ask]
  split
  · rw [Std.HashMap.getElem?_insert]
    split
    · exact ⟨_, rfl⟩
    · exact remembers
  · exact remembers

theorem foldl_ask_keeps (ids : List Nat) (remembers : ∃ text, known[id]? = some text) :
    ∃ text, (ids.foldl dir.ask known)[id]? = some text := by
  induction ids generalizing known with
  | nil => exact remembers
  | cons other rest ih => exact ih (ask_keeps remembers)

theorem ask_of_ok (resolved : dir.resolve known (chainLimit + 1) id = .ok text) :
    dir.ask known id = known.insert id text := by
  rw [ask, resolved]

theorem ask_of_error {fault : Fault}
    (refused : dir.resolve known (chainLimit + 1) id = .error fault) :
    dir.ask known id = known := by
  rw [ask, refused]

/-- An entry is remembered once it was asked for and resolved. -/
theorem ask_remembers (resolves : ∃ text, dir.resolve known (chainLimit + 1) id = .ok text) :
    ∃ text, (dir.ask known id)[id]? = some text := by
  obtain ⟨text, resolved⟩ := resolves
  rw [ask_of_ok resolved]
  exact ⟨text, Std.HashMap.getElem?_insert_self⟩

/-- A request adds a true text to true ones. -/
theorem ask_spells (truths : ∀ {id text}, known[id]? = some text → dir.Spells id text) :
    ∀ {other text}, (dir.ask known id)[other]? = some text → dir.Spells other text := by
  rw [ask]
  split
  · next text resolved => exact forall_getElem?_insert truths (settles truths resolved)
  · exact truths

/-- **What is remembered after any requests is true.** -/
theorem after_spells (ids : List Nat) :
    ∀ {id text}, (dir.after ids)[id]? = some text → dir.Spells id text := by
  refine List.foldlRecOn (motive := fun known : Std.HashMap Nat String =>
    ∀ {id text}, known[id]? = some text → dir.Spells id text) ids _ ?_ ?_
  · intro id text found
    rw [Std.HashMap.getElem?_empty] at found
    cases found
  · exact fun known truths asked _ => ask_spells truths

theorem answer_spells {ids : List Nat} (given : dir.answer ids id = .ok text) :
    dir.Spells id text :=
  settles (after_spells ids) given

theorem answer_error_of_broken (ids : List Nat) (broken : dir.Broken id) :
    ∃ fault, dir.answer ids id = .error fault := by
  cases given : dir.answer ids id with
  | error fault => exact ⟨fault, rfl⟩
  | ok text => exact absurd broken (not_broken (answer_spells given))

/-! ## Requests that resolve every entry there is -/

/-- Requests for all entries, so many times over. -/
def survey (dir : Directory ε) : Nat → List Nat
  | 0 => []
  | rounds + 1 => dir.survey rounds ++ List.range dir.entries.size

/-- With each round of requests another level of entries is remembered. -/
theorem remembers_survey (within : Descent.Within dir.Refers levels id) (whole : dir.Whole id) :
    ∃ text, (dir.after (dir.survey levels))[id]? = some text := by
  induction levels generalizing id with
  | zero => cases within
  | succ levels ih =>
    obtain ⟨inside, rest⟩ := whole_iff.1 whole
    obtain ⟨early, late, split⟩ := List.append_of_mem (List.mem_range.2 inside)
    rw [survey, split, after_append, List.foldl_append, List.foldl_cons]
    -- what the entry refers to was remembered in the round before
    apply foldl_ask_keeps late
    apply ask_remembers
    apply resolves_iff.2
    refine ⟨inside, .inr ⟨chainLimit, rfl, fun other refers => resolves_iff.2 ?_⟩⟩
    have remembered := ih (within other refers) (rest other refers)
    exact ⟨rest other refers other .refl, .inl (foldl_ask_keeps early remembered)⟩

/-- An entry that is remembered is resolved. -/
theorem answer_of_remembers {ids : List Nat} (inside : id < dir.entries.size)
    (remembers : ∃ text, (dir.after ids)[id]? = some text) :
    ∃ text, dir.answer ids id = .ok text :=
  resolves_iff.2 ⟨inside, .inl remembers⟩

/-- **An answer does not depend on earlier requests if and only if the entry is broken or nested
within the limit.** -/
theorem steady_iff :
    (∀ ids, (dir.answer ids id).toOption = (dir.answer [] id).toOption) ↔
      dir.Broken id ∨ Descent.Within dir.Refers (chainLimit + 1) id := by
  constructor
  · intro steady
    by_cases broken : dir.Broken id
    · exact .inl broken
    · obtain ⟨levels, within⟩ := exists_within broken
      have whole := whole_of_not_broken broken
      obtain ⟨text, given⟩ :=
        answer_of_remembers (whole id .refl) (remembers_survey within whole)
      have same := steady (dir.survey levels)
      rw [given] at same
      cases fresh : dir.answer [] id with
      | error fault =>
        rw [fresh] at same
        cases same
      | ok text => exact .inr (resolves_empty_iff.1 ⟨text, fresh⟩).1
  · intro either ids
    by_cases broken : dir.Broken id
    · obtain ⟨fault, here⟩ := answer_error_of_broken ids broken
      obtain ⟨flaw, there⟩ := answer_error_of_broken [] broken
      rw [here, there]
      rfl
    · have within := either.resolve_left broken
      have whole := whole_of_not_broken broken
      obtain ⟨text, here⟩ : ∃ text, dir.answer ids id = .ok text := resolves_of_within within whole
      obtain ⟨fresh, there⟩ : ∃ text, dir.answer [] id = .ok text := resolves_of_within within whole
      rw [here, there, (answer_spells here).unique (answer_spells there)]

end Directory

end ClassAtlas
