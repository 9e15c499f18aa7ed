import ClassAtlas.Proofs.Names.Requests

/-!
# What names and packages expand to

A name expands to the texts at the leaves of what it is made of, from left to right
(`Tables.Leaves`), and a package to the segments from the outermost package down to itself
(`Tables.Path`).  There is one such list at most, and whatever was asked before, an answer is that
list put together (`texts_right`).  An entry that leads to a cycle or out of its table has no
answer, and every other entry that is nested within the limit has one.
-/

set_option autoImplicit false

namespace ClassAtlas

namespace Tables

variable {tables : Tables}

/-! ## Leaves and paths -/

/-- The texts at the leaves of what some names are made of, from left to right. -/
inductive Leaves (tables : Tables) : List Nat → List String → Prop
  | none : Leaves tables [] []
  | text {id : Nat} {value : String} {rest : List Nat} {leaves : List String}
      (listed : tables.names[id]? = some (.text value)) (onward : Leaves tables rest leaves) :
      Leaves tables (id :: rest) (value :: leaves)
  | alias {id other : Nat} {rest : List Nat} {leaves : List String}
      (listed : tables.names[id]? = some (.alias other))
      (onward : Leaves tables (other :: rest) leaves) : Leaves tables (id :: rest) leaves
  | parts {id : Nat} {others rest : List Nat} {leaves : List String}
      (listed : tables.names[id]? = some (.parts others))
      (onward : Leaves tables (others ++ rest) leaves) : Leaves tables (id :: rest) leaves

/-- The segments from the outermost package around a package down to the package itself. -/
inductive Path (tables : Tables) : Nat → List String → Prop
  | root {id : Nat} {entry : PackageEntry} (listed : tables.packages[id]? = some entry)
      (alone : entry.parent = none) : Path tables id [entry.segment]
  | inside {id parent : Nat} {entry : PackageEntry} {segments : List String}
      (listed : tables.packages[id]? = some entry) (stands : entry.parent = some parent)
      (outer : Path tables parent segments) : Path tables id (segments ++ [entry.segment])

theorem Leaves.unique {ids : List Nat} {leaves other : List String}
    (here : tables.Leaves ids leaves) (there : tables.Leaves ids other) : leaves = other := by
  induction here generalizing other with
  | none =>
    cases there
    rfl
  | text listed _ ih =>
    cases there with
    | text listed' onward =>
      cases listed.symm.trans listed'
      rw [ih onward]
    | «alias» listed' _ | parts listed' _ => cases listed.symm.trans listed'
  | «alias» listed _ ih =>
    cases there with
    | «alias» listed' onward =>
      cases listed.symm.trans listed'
      exact ih onward
    | text listed' _ | parts listed' _ => cases listed.symm.trans listed'
  | parts listed _ ih =>
    cases there with
    | parts listed' onward =>
      cases listed.symm.trans listed'
      exact ih onward
    | text listed' _ | «alias» listed' _ => cases listed.symm.trans listed'

theorem Path.unique {id : Nat} {segments other : List String} (here : tables.Path id segments)
    (there : tables.Path id other) : segments = other := by
  induction here generalizing other with
  | root listed alone =>
    cases there with
    | root listed' _ =>
      cases listed.symm.trans listed'
      rfl
    | inside listed' stands _ =>
      cases listed.symm.trans listed'
      cases alone.symm.trans stands
  | inside listed stands _ ih =>
    cases there with
    | root listed' alone =>
      cases listed.symm.trans listed'
      cases alone.symm.trans stands
    | inside listed' stands' outer =>
      cases listed.symm.trans listed'
      cases stands.symm.trans stands'
      rw [ih outer]

theorem Path.ne_nil {id : Nat} {segments : List String} (path : tables.Path id segments) :
    segments ≠ [] := by
  cases path with
  | root => exact List.cons_ne_nil _ _
  | inside => exact List.append_ne_nil_of_right_ne_nil _ (List.cons_ne_nil _ _)

/-! ## Texts and what they are put together from -/

/-- The parts of a name expand one after the other. -/
theorem leaves_of_joinParts {resolve : Nat → Except Fault String}
    (each : ∀ {id text rest leaves}, resolve id = .ok text → tables.Leaves rest leaves →
      ∃ own, text = String.join own ∧ tables.Leaves (id :: rest) (own ++ leaves))
    {ids rest : List Nat} {text : String} {leaves : List String}
    (joined : joinParts resolve ids = .ok text) (after : tables.Leaves rest leaves) :
    ∃ own, text = String.join own ∧ tables.Leaves (ids ++ rest) (own ++ leaves) := by
  induction ids generalizing text with
  | nil =>
    cases joined
    exact ⟨[], String.join_nil.symm, after⟩
  | cons id ids ih =>
    obtain ⟨first, here, joined⟩ := Outcome.bind_eq_ok.1 joined
    obtain ⟨others, there, joined⟩ := Outcome.bind_eq_ok.1 joined
    cases joined
    obtain ⟨later, rfl, expands⟩ := ih there
    obtain ⟨own, rfl, expands⟩ := each here expands
    rw [← List.append_assoc] at expands
    exact ⟨own ++ later, String.join_append.symm, expands⟩

/-- A name that is resolved without memory is the texts at its leaves. -/
theorem leaves_of_resolveName {levels id : Nat} {text : String}
    (resolved : tables.resolveName ∅ levels id = .ok text) {rest : List Nat} {leaves : List String}
    (after : tables.Leaves rest leaves) :
    ∃ own, text = String.join own ∧ tables.Leaves (id :: rest) (own ++ leaves) := by
  induction levels generalizing id text rest leaves with
  | zero =>
    obtain ⟨entry, listed⟩ := exists_of_resolveName resolved
    cases (resolveName_zero listed Std.HashMap.getElem?_empty).symm.trans resolved
  | succ levels ih =>
    obtain ⟨entry, listed⟩ := exists_of_resolveName resolved
    rw [resolveName_succ listed Std.HashMap.getElem?_empty] at resolved
    cases entry with
    | text value =>
      cases resolved
      exact ⟨[text], by simp, .text listed after⟩
    | «alias» other =>
      obtain ⟨own, same, expands⟩ := ih resolved after
      exact ⟨own, same, .alias listed expands⟩
    | parts others =>
      obtain ⟨own, same, expands⟩ := leaves_of_joinParts (fun here => ih here) resolved after
      exact ⟨own, same, .parts listed expands⟩

/-- A package that is resolved without memory is the segments on the path to it. -/
theorem path_of_resolvePackage {levels id : Nat} {text : String}
    (resolved : tables.resolvePackage ∅ levels id = .ok text) :
    ∃ segments, tables.Path id segments ∧ text = ".".intercalate segments := by
  induction levels generalizing id text with
  | zero =>
    obtain ⟨entry, listed⟩ := exists_of_resolvePackage resolved
    cases (resolvePackage_zero listed Std.HashMap.getElem?_empty).symm.trans resolved
  | succ levels ih =>
    obtain ⟨entry, listed⟩ := exists_of_resolvePackage resolved
    rw [resolvePackage_succ listed Std.HashMap.getElem?_empty, readPackage] at resolved
    cases stands : entry.parent with
    | none =>
      rw [stands] at resolved
      cases resolved
      exact ⟨_, .root listed stands, String.intercalate_singleton.symm⟩
    | some parent =>
      rw [stands] at resolved
      obtain ⟨outer, there, resolved⟩ := Outcome.bind_eq_ok.1 resolved
      cases resolved
      obtain ⟨segments, path, rfl⟩ := ih there
      refine ⟨_, .inside listed stands path, ?_⟩
      rw [String.intercalate_append_of_ne_nil path.ne_nil (List.cons_ne_nil _ _),
        String.intercalate_singleton]
      rfl

/-! ## Answers -/

/-- What is right about an answer: a text is the one that is spelled, a broken entry has none, and
any other entry has one if it is shallow. -/
structure RightAnswer (outcome : Except Fault String) (Spelled : String → Prop)
    (broken shallow : Prop) : Prop where
  spelled : ∀ text, outcome = .ok text → Spelled text
  refused : broken → ∃ fault, outcome = .error fault
  given : ¬broken → shallow → ∃ text, outcome = .ok text

end Tables

/-- The answers of a directory are right. -/
theorem Directory.rightAnswer {ε : Type} {dir : Directory ε} {Spelled : String → Prop} {id : Nat}
    (spells : ∀ levels text, dir.resolve ∅ levels id = .ok text → Spelled text) (ids : List Nat) :
    Tables.RightAnswer (dir.answer ids id) Spelled (dir.Broken id)
      (Descent.Within dir.Refers (chainLimit + 1) id) where
  spelled text answered := by
    obtain ⟨levels, resolved⟩ := answer_spells answered
    exact spells levels text (resolved levels (Nat.le_refl levels))
  refused := answer_error_of_broken ids
  given sound within := resolves_of_within within (whole_of_not_broken sound)

/-- **Names and packages are resolved right on every table**, whatever was asked before. -/
theorem Tables.texts_right (tables : Tables) (requests : List TextRequest) (id : Nat) :
    RightAnswer (tables.name id (tables.afterRequests requests)).1
        (fun text => ∃ leaves, tables.Leaves [id] leaves ∧ text = String.join leaves)
        (tables.nameDirectory.Broken id) (Descent.Within tables.MadeOf (chainLimit + 1) id) ∧
      RightAnswer (tables.packageName id (tables.afterRequests requests)).1
        (fun text => ∃ segments, tables.Path id segments ∧ text = ".".intercalate segments)
        (tables.packageDirectory.Broken id)
        (Descent.Within tables.StandsIn (chainLimit + 1) id) := by
  rw [name_afterRequests, packageName_afterRequests, ← packageDirectory_refers]
  constructor
  · apply Directory.rightAnswer
    intro levels text resolved
    obtain ⟨leaves, same, expands⟩ := leaves_of_resolveName resolved .none
    rw [List.append_nil] at expands
    exact ⟨leaves, expands, same⟩
  · apply Directory.rightAnswer
    exact fun levels text resolved => path_of_resolvePackage resolved

end ClassAtlas
