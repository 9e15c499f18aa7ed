import ClassAtlas.Proofs.Recall.Types

/-!
# Names that are looked up

Looking a name up forgets nothing, and of the names that were found it changes at most the entry of
that name (`findByName_found_of_ne`), which afterwards is what was found, and absent when nothing
was (`findByName_remembers`).  So as long as the entry of a name stays as it is, the name stands for
the same type whenever it is looked up (`findByName_again`).
-/

set_option autoImplicit false

namespace ClassAtlas

/-- Types that were grouped are not grouped again. -/
theorem Tables.partitions_of_known (tables : Tables) {memory : Memory} {partitions : Partitions}
    (grouped : memory.partitions = some partitions) :
    tables.partitions memory = (.ok partitions, memory) := by
  rw [Tables.partitions, Work.bind_apply, Work.get_apply]
  simp only [grouped]
  rfl

theorem Tables.partitions_recalls (tables : Tables) : Work.Recalls tables.partitions := by
  constructor
  · intro memory
    rw [partitions, Work.bind_apply, Work.get_apply]
    cases known : memory.partitions with
    | some partitions =>
      simp only [known]
      exact .refl memory
    | none =>
      simp only [known]
      cases Partitions.ofTables tables with
      | error fault => exact .refl memory
      | ok partitions =>
        exact ⟨{ Memory.Within.refl memory with
          partitions := fun found => by simp [known] at found }, rfl⟩
  · intro memory partitions given later within
    have remembered : (tables.partitions memory).2.partitions = some partitions := by
      rw [Tables.partitions, Work.bind_apply, Work.get_apply] at given ⊢
      cases known : memory.partitions with
      | some older =>
        simp only [known] at given ⊢
        cases given
        exact known
      | none =>
        simp only [known] at given ⊢
        cases grouped : Partitions.ofTables tables with
        | error fault =>
          rw [grouped] at given
          cases given
        | ok fresh =>
          rw [grouped] at given
          cases given
          rfl
    exact congrArg Prod.fst (tables.partitions_of_known (within.partitions remembered))

namespace Atlas

variable {atlas : Atlas} {name : String} {memory later : Memory}

/-- Looks for a name among the types, whatever was found before. -/
def seek (atlas : Atlas) (name : String) : Work (Option TypeRef) := do
  let (element, depth) := splitDimensions name
  if element.isEmpty || !element.toList.all isNameChar then return none
  else do
    let partitions ← atlas.tables.partitions
    match ← atlas.findAmong element (partitions.candidates element) with
    | none => return none
    | some id => return some ⟨id, depth⟩

/-- The search for a name groups the types and asks some of them. -/
theorem Asked.seek {good : {α : Type} → Work α → Prop} (asked : atlas.Asked good)
    (grouped : good atlas.tables.partitions) (name : String) : good (atlas.seek name) := by
  rw [Atlas.seek]
  dsimp only
  split
  · exact asked.pure none
  · refine asked.bind grouped fun partitions => asked.bind (asked.findAmong _ _) fun found => ?_
    cases found <;> exact asked.pure _

theorem seek_recalls (atlas : Atlas) (name : String) : Work.Recalls (atlas.seek name) :=
  (TypeView.recalls_asked atlas).seek atlas.tables.partitions_recalls name

/-- A name that was found is not looked for. -/
theorem findByName_of_known {ref : TypeRef} (known : memory.found[name]? = some ref) :
    atlas.findByName name memory = (.ok (some ref), memory) := by
  rw [findByName, Work.bind_apply, Work.get_apply]
  simp only [known]
  rfl

/-- A name that was not found is looked for, and is remembered if it is found now. -/
theorem findByName_of_unknown (atlas : Atlas) (unknown : memory.found[name]? = none) :
    atlas.findByName name memory =
      match atlas.seek name memory with
      | (.ok (some ref), after) =>
        (.ok (some ref), { after with found := after.found.insert name ref })
      | (outcome, after) => (outcome, after) := by
  rw [findByName, Work.bind_apply, Work.get_apply, seek]
  simp only [unknown]
  split
  · rfl
  · simp only [Work.bind_apply]
    rcases atlas.tables.partitions memory with ⟨fault | partitions, between⟩
    · rfl
    · simp only
      rcases atlas.findAmong _ _ between with ⟨fault | found, after⟩
      · rfl
      · cases found <;> rfl

/-- How a name is looked up: nothing is learned of it but what it stands for. -/
theorem findByName_cases (atlas : Atlas) (name : String) (memory : Memory) :
    (∃ ref, memory.found[name]? = some ref ∧
      atlas.findByName name memory = (.ok (some ref), memory)) ∨
    memory.found[name]? = none ∧
      ((∃ ref after, atlas.seek name memory = (.ok (some ref), after) ∧
        atlas.findByName name memory =
          (.ok (some ref), { after with found := after.found.insert name ref })) ∨
      (∀ ref, (atlas.seek name memory).1 ≠ .ok (some ref)) ∧
        atlas.findByName name memory = atlas.seek name memory) := by
  cases known : memory.found[name]? with
  | some ref => exact .inl ⟨ref, rfl, findByName_of_known known⟩
  | none =>
    have run := atlas.findByName_of_unknown known
    refine .inr ⟨rfl, ?_⟩
    rcases sought : atlas.seek name memory with ⟨fault | found, after⟩
    · rw [sought] at run
      exact .inr ⟨fun _ same => (nomatch same), run⟩
    · rw [sought] at run
      cases found with
      | none => exact .inr ⟨fun _ same => (nomatch same), run⟩
      | some ref => exact .inl ⟨ref, after, rfl, run⟩

theorem findByName_within (atlas : Atlas) (name : String) (memory : Memory) :
    memory.Within (atlas.findByName name memory).2 := by
  have learns := (atlas.seek_recalls name).learns memory
  rcases atlas.findByName_cases name memory with
    ⟨ref, -, run⟩ | ⟨unknown, ⟨ref, after, sought, run⟩ | ⟨-, run⟩⟩
  · rw [run]
    exact .refl memory
  · rw [sought] at learns
    rw [run]
    refine { learns.within with found := learns.within.found.insert fun older found => ?_ }
    rw [unknown] at found
    cases found
  · rw [run]
    exact learns.within

/-- Of the other names nothing is learned. -/
theorem findByName_found_of_ne (atlas : Atlas) (memory : Memory) {other : String}
    (different : other ≠ name) :
    (atlas.findByName name memory).2.found[other]? = memory.found[other]? := by
  have learns := (atlas.seek_recalls name).learns memory
  rcases atlas.findByName_cases name memory with
    ⟨ref, -, run⟩ | ⟨-, ⟨ref, after, sought, run⟩ | ⟨-, run⟩⟩
  · rw [run]
  · rw [sought] at learns
    rw [run, Std.HashMap.getElem?_insert, if_neg (by simpa using different.symm), learns.found]
  · rw [run, learns.found]

/-- What is remembered of a name is what was found. -/
theorem findByName_remembers {found : Option TypeRef}
    (given : (atlas.findByName name memory).1 = .ok found) :
    (atlas.findByName name memory).2.found[name]? = found := by
  have learns := (atlas.seek_recalls name).learns memory
  rcases atlas.findByName_cases name memory with
    ⟨ref, known, run⟩ | ⟨unknown, ⟨ref, after, -, run⟩ | ⟨missed, run⟩⟩
  · rw [run] at given ⊢
    cases given
    exact known
  · rw [run] at given ⊢
    cases given
    exact Std.HashMap.getElem?_insert_self
  · rw [run] at given ⊢
    rw [learns.found, unknown]
    cases found with
    | none => rfl
    | some ref => exact absurd given (missed ref)

/-- **A name stands for the same type whenever it is looked up**, unless something else was
remembered of it in between. -/
theorem findByName_again {found : Option TypeRef}
    (given : (atlas.findByName name memory).1 = .ok found)
    (within : (atlas.findByName name memory).2.Within later)
    (same : later.found[name]? = (atlas.findByName name memory).2.found[name]?) :
    (atlas.findByName name later).1 = .ok found := by
  rw [findByName_remembers given] at same
  cases found with
  | some ref => rw [findByName_of_known same]
  | none =>
    rcases atlas.findByName_cases name memory with
      ⟨ref, -, run⟩ | ⟨-, ⟨ref, after, -, run⟩ | ⟨-, run⟩⟩
    · rw [run] at given
      cases given
    · rw [run] at given
      cases given
    · rw [run] at given within
      have again := (atlas.seek_recalls name).again given within
      rw [atlas.findByName_of_unknown same]
      rcases sought : atlas.seek name later with ⟨fault | missed, after⟩
      · rw [sought] at again
        cases again
      · rw [sought] at again
        cases again
        rfl

end Atlas

end ClassAtlas
