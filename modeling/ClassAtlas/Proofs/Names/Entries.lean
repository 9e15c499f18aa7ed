import ClassAtlas.Proofs.Names.Directory

/-!
# Names and packages as directories

A name is made of those that its entry refers to, and a package stands in its parent
(`Tables.nameDirectory`, `Tables.packageDirectory`).  What is known of directories holds of both: a
text that was resolved with true texts in memory is the true one (`Tables.nameIs_of_resolveName`),
and more levels than an entry is nested make no difference (`Tables.resolveName_of_within`).
-/

set_option autoImplicit false

namespace ClassAtlas

/-- The names that an entry refers to. -/
def NameEntry.refers : NameEntry → List Nat
  | .text _ => []
  | .alias other => [other]
  | .parts others => others

namespace Tables

variable {tables : Tables} {known : Std.HashMap Nat String} {id : Nat}

/-! ## Reading an entry -/

/-- What an entry of the name table says, from the texts of others. -/
def readName (resolve : Nat → Except Fault String) : NameEntry → Except Fault String
  | .text value => .ok value
  | .alias other => resolve other
  | .parts others => joinParts resolve others

/-- What an entry of the package table says, from the texts of others. -/
def readPackage (resolve : Nat → Except Fault String) (entry : PackageEntry) :
    Except Fault String :=
  match entry.parent with
  | none => .ok entry.segment
  | some parent => do
    let outer ← resolve parent
    return s!"{outer}.{entry.segment}"

section

variable {resolve resolve' : Nat → Except Fault String} {ids : List Nat} {fault : Fault}

theorem exists_joinParts_iff :
    (∃ text, joinParts resolve ids = .ok text) ↔ ∀ id ∈ ids, ∃ text, resolve id = .ok text := by
  induction ids with
  | nil => exact ⟨fun _ => List.forall_mem_nil _, fun _ => ⟨"", rfl⟩⟩
  | cons id rest ih =>
    rw [List.forall_mem_cons, ← ih]
    constructor
    · rintro ⟨text, joined⟩
      obtain ⟨first, here, joined⟩ := Outcome.bind_eq_ok.1 joined
      obtain ⟨others, there, -⟩ := Outcome.bind_eq_ok.1 joined
      exact ⟨⟨first, here⟩, others, there⟩
    · rintro ⟨⟨first, here⟩, others, there⟩
      exact ⟨first ++ others, Outcome.bind_eq_ok.2 ⟨first, here, Outcome.bind_eq_ok.2
        ⟨others, there, rfl⟩⟩⟩

theorem joinParts_congr (same : ∀ id ∈ ids, resolve id = resolve' id) :
    joinParts resolve ids = joinParts resolve' ids := by
  induction ids with
  | nil => rfl
  | cons id rest ih =>
    obtain ⟨here, there⟩ := List.forall_mem_cons.1 same
    rw [joinParts, joinParts, here, ih there]

/-- Parts that cannot be joined have a part that is not resolved. -/
theorem joinParts_error (refused : joinParts resolve ids = .error fault) :
    ∃ id ∈ ids, resolve id = .error fault := by
  induction ids with
  | nil => cases refused
  | cons id rest ih =>
    rw [joinParts] at refused
    cases here : resolve id with
    | error flaw =>
      rw [here] at refused
      cases refused
      exact ⟨id, List.mem_cons_self, here⟩
    | ok first =>
      rw [here, Outcome.ok_bind] at refused
      cases there : joinParts resolve rest with
      | ok others =>
        rw [there] at refused
        cases refused
      | error flaw =>
        rw [there] at refused
        cases refused
        obtain ⟨other, listed, refused⟩ := ih there
        exact ⟨other, List.mem_cons_of_mem _ listed, refused⟩

variable {entry : NameEntry}

theorem exists_readName_iff :
    (∃ text, readName resolve entry = .ok text) ↔
      ∀ part ∈ entry.refers, ∃ text, resolve part = .ok text := by
  cases entry with
  | text value => exact ⟨fun _ => List.forall_mem_nil _, fun _ => ⟨value, rfl⟩⟩
  | «alias» other => simp only [readName, NameEntry.refers, List.forall_mem_singleton]
  | parts others => exact exists_joinParts_iff

theorem readName_congr (same : ∀ part ∈ entry.refers, resolve part = resolve' part) :
    readName resolve entry = readName resolve' entry := by
  cases entry with
  | text value => rfl
  | «alias» other => exact same other List.mem_cons_self
  | parts others => exact joinParts_congr same

theorem readName_error (refused : readName resolve entry = .error fault) :
    ∃ part ∈ entry.refers, resolve part = .error fault := by
  cases entry with
  | text value => cases refused
  | «alias» other => exact ⟨other, List.mem_cons_self, refused⟩
  | parts others => exact joinParts_error refused

end

section

variable {resolve resolve' : Nat → Except Fault String} {entry : PackageEntry} {fault : Fault}

theorem exists_readPackage_iff :
    (∃ text, readPackage resolve entry = .ok text) ↔
      ∀ parent ∈ entry.parent.toList, ∃ text, resolve parent = .ok text := by
  rw [readPackage]
  cases entry.parent with
  | none => exact ⟨fun _ => List.forall_mem_nil _, fun _ => ⟨entry.segment, rfl⟩⟩
  | some parent =>
    rw [Option.toList_some, List.forall_mem_singleton]
    constructor
    · rintro ⟨text, read⟩
      obtain ⟨outer, there, -⟩ := Outcome.bind_eq_ok.1 read
      exact ⟨outer, there⟩
    · rintro ⟨outer, there⟩
      exact ⟨_, Outcome.bind_eq_ok.2 ⟨outer, there, rfl⟩⟩

theorem readPackage_congr
    (same : ∀ parent ∈ entry.parent.toList, resolve parent = resolve' parent) :
    readPackage resolve entry = readPackage resolve' entry := by
  rw [readPackage, readPackage]
  cases stands : entry.parent with
  | none => rfl
  | some parent =>
    rw [stands, Option.toList_some, List.forall_mem_singleton] at same
    simp only [same]

theorem readPackage_error (refused : readPackage resolve entry = .error fault) :
    ∃ parent ∈ entry.parent.toList, resolve parent = .error fault := by
  rw [readPackage] at refused
  cases stands : entry.parent with
  | none =>
    rw [stands] at refused
    cases refused
  | some parent =>
    rw [stands] at refused
    refine ⟨parent, List.mem_singleton_self parent, ?_⟩
    cases there : resolve parent with
    | error flaw =>
      simp only [there] at refused
      exact refused
    | ok outer =>
      simp only [there] at refused
      cases refused

end

/-! ## Resolving an entry -/

theorem resolveName_of_absent (absent : tables.names[id]? = none)
    (known : Std.HashMap Nat String) (levels : Nat) :
    tables.resolveName known levels id = .error (.invalidId .names id tables.names.size) := by
  unfold resolveName
  simp only [absent]

/-- A name that is remembered has the text that is remembered. -/
theorem resolveName_of_known {text : String} {entry : NameEntry}
    (listed : tables.names[id]? = some entry) (found : known[id]? = some text) (levels : Nat) :
    tables.resolveName known levels id = .ok text := by
  unfold resolveName
  simp only [listed, found]

theorem resolveName_zero {entry : NameEntry} (listed : tables.names[id]? = some entry)
    (new : known[id]? = none) :
    tables.resolveName known 0 id = .error (.decode (.cyclicName id)) := by
  unfold resolveName
  simp only [listed, new]

/-- A name that is not remembered is read with one level less. -/
theorem resolveName_succ {entry : NameEntry} (listed : tables.names[id]? = some entry)
    (new : known[id]? = none) (levels : Nat) :
    tables.resolveName known (levels + 1) id =
      readName (tables.resolveName known levels) entry := by
  conv_lhs => unfold resolveName
  simp only [listed, new]
  cases entry <;> rfl

theorem resolvePackage_of_absent (absent : tables.packages[id]? = none)
    (known : Std.HashMap Nat String) (levels : Nat) :
    tables.resolvePackage known levels id =
      .error (.invalidId .packages id tables.packages.size) := by
  unfold resolvePackage
  simp only [absent]

/-- A package that is remembered has the text that is remembered. -/
theorem resolvePackage_of_known {text : String} {entry : PackageEntry}
    (listed : tables.packages[id]? = some entry) (found : known[id]? = some text) (levels : Nat) :
    tables.resolvePackage known levels id = .ok text := by
  unfold resolvePackage
  simp only [listed, found]

theorem resolvePackage_zero {entry : PackageEntry} (listed : tables.packages[id]? = some entry)
    (new : known[id]? = none) :
    tables.resolvePackage known 0 id = .error (.decode (.cyclicPackage id)) := by
  unfold resolvePackage
  simp only [listed, new]

theorem resolvePackage_succ {entry : PackageEntry} (listed : tables.packages[id]? = some entry)
    (new : known[id]? = none) (levels : Nat) :
    tables.resolvePackage known (levels + 1) id =
      readPackage (tables.resolvePackage known levels) entry := by
  conv_lhs => unfold resolvePackage
  simp only [listed, new]
  rfl

/-! ## The two directories -/

/-- The table of names. -/
def nameDirectory (tables : Tables) : Directory NameEntry where
  entries := tables.names
  refers := NameEntry.refers
  read := readName
  resolve := tables.resolveName
  missing id := .invalidId .names id tables.names.size
  tooDeep id := .decode (.cyclicName id)
  absent := resolveName_of_absent
  recalls := resolveName_of_known
  stops := resolveName_zero
  steps := resolveName_succ
  read_iff := exists_readName_iff
  read_congr := readName_congr
  read_error := readName_error
  missing_final _ _ same := by cases same
  tooDeep_final _ _ same := by cases same

/-- The table of packages. -/
def packageDirectory (tables : Tables) : Directory PackageEntry where
  entries := tables.packages
  refers entry := entry.parent.toList
  read := readPackage
  resolve := tables.resolvePackage
  missing id := .invalidId .packages id tables.packages.size
  tooDeep id := .decode (.cyclicPackage id)
  absent := resolvePackage_of_absent
  recalls := resolvePackage_of_known
  stops := resolvePackage_zero
  steps := resolvePackage_succ
  read_iff := exists_readPackage_iff
  read_congr := readPackage_congr
  read_error := readPackage_error
  missing_final _ _ same := by cases same
  tooDeep_final _ _ same := by cases same

/-- A name is made of another one. -/
def MadeOf (tables : Tables) (id part : Nat) : Prop :=
  ∃ entry, tables.names[id]? = some entry ∧ part ∈ entry.refers

/-- A package stands in another one. -/
def StandsIn (tables : Tables) (id parent : Nat) : Prop :=
  ∃ entry, tables.packages[id]? = some entry ∧ entry.parent = some parent

theorem packageDirectory_refers : tables.packageDirectory.Refers = tables.StandsIn := by
  funext id parent
  simp only [Directory.Refers, packageDirectory, StandsIn, Option.mem_toList]

/-- What a name is without memory. -/
def NameIs (tables : Tables) (id : Nat) (text : String) : Prop :=
  Outcome.Settles (fun levels => tables.resolveName ∅ levels id) text

/-- What a package is without memory. -/
def PackageIs (tables : Tables) (id : Nat) (text : String) : Prop :=
  Outcome.Settles (fun levels => tables.resolvePackage ∅ levels id) text

section

variable {levels : Nat} {text : String}

/-- A name that has a text is in the table. -/
theorem exists_of_resolveName (resolved : tables.resolveName known levels id = .ok text) :
    ∃ entry, tables.names[id]? = some entry :=
  tables.nameDirectory.present resolved

theorem exists_of_resolvePackage (resolved : tables.resolvePackage known levels id = .ok text) :
    ∃ entry, tables.packages[id]? = some entry :=
  tables.packageDirectory.present resolved

/-- With true texts in memory a name has its true text. -/
theorem nameIs_of_resolveName
    (remembered : ∀ {id text}, known[id]? = some text → tables.NameIs id text)
    (given : tables.resolveName known levels id = .ok text) : tables.NameIs id text :=
  tables.nameDirectory.settles remembered given

/-- With true texts in memory a package has its true text. -/
theorem packageIs_of_resolvePackage
    (remembered : ∀ {id text}, known[id]? = some text → tables.PackageIs id text)
    (given : tables.resolvePackage known levels id = .ok text) : tables.PackageIs id text :=
  tables.packageDirectory.settles remembered given

/-- More levels than a name is nested make no difference. -/
theorem resolveName_of_within {more : Nat} (within : Descent.Within tables.MadeOf levels id)
    (enough : levels ≤ more) : tables.resolveName ∅ more id = tables.resolveName ∅ levels id :=
  tables.nameDirectory.resolve_of_within within enough

/-- More levels than a package is nested make no difference. -/
theorem resolvePackage_of_within {more : Nat} (within : Descent.Within tables.StandsIn levels id)
    (enough : levels ≤ more) :
    tables.resolvePackage ∅ more id = tables.resolvePackage ∅ levels id :=
  tables.packageDirectory.resolve_of_within (packageDirectory_refers ▸ within) enough

end

end Tables

end ClassAtlas
