import ClassAtlas.Proofs.Substitution.Computation
import ClassAtlas.Proofs.Substitution.History
import ClassAtlas.Proofs.Substitution.Maps

/-!
# Chains are followed in place

At last the values of a map are followed to the ends of their chains, one key after the other, each
in the map so far.  A value is at rest when it leads no further: it is no variable, or a variable
that is not bound, or is bound to itself or to the same value.

Before and after its own turn a binding stops the same values (`stops_iff`).  So it can be told from
the map as it was gathered which bindings stay as they are (`resolveChains_keeps_iff`), and at the
end all values are at rest, in whatever order the keys had their turns
(`resolved_of_resolveChains`).  Then following the chains once more changes nothing
(`resolveChains_of_resolved`).  Every map that is given is such a map (`exhaustive_resolved`).
-/

set_option autoImplicit false

namespace ClassAtlas

namespace Tables

/-- A value that leads no further in a map: no variable, or one that is not bound, is bound to
itself, or is bound to this same value. -/
def AtRest (tables : Tables) (map : VarMap) (value : TypeRef) : Prop :=
  tables.IsTypeVariable value.id → ∀ next, map.find? value.id = some next →
    VarMap.isSelf value.id next = true ∨ next = value

/-- A map whose values can be read and lead no further. -/
structure Resolved (tables : Tables) (map : VarMap) : Prop where
  reads : ∀ key value, map.find? key = some value → ∃ data, tables.typeData value.id = .ok data
  rests : ∀ key value, map.find? key = some value → tables.AtRest map value

end Tables

namespace VarMap

theorem isSelf_iff {key : Nat} {value : TypeRef} :
    isSelf key value = true ↔ value = .plain key := by
  rw [isSelf, Bool.and_eq_true, beq_iff_eq, beq_iff_eq, TypeRef.plain]
  cases value
  simp

/-- Binding a variable to what it stands for changes nothing. -/
theorem insert_of_find? {map : VarMap} {key : Nat} {value : TypeRef}
    (found : map.find? key = some value) : map.insert key value = map := by
  refine find?_ext fun other => ?_
  rw [find?_insert]
  split
  · next same => rw [same, found]
  · rfl

theorem find?_stripSelf {map : VarMap} {key : Nat} {value : TypeRef} :
    map.stripSelf.find? key = some value ↔ map.find? key = some value ∧ value ≠ .plain key := by
  rw [← mem_entries_iff, ← mem_entries_iff, stripSelf, List.mem_filter, Bool.not_eq_true',
    ← Bool.not_eq_true, isSelf_iff]

end VarMap

namespace Atlas

variable {atlas : Atlas}

/-! ## Chains in place -/

/-- One step of a chain that has an end: the end is here and can be read, or the value is not at
rest and the chain goes on with one step less. -/
theorem followChain_cases {key left : Nat} {map : VarMap} {value result : TypeRef}
    (given : atlas.followChain key map left value = .ok result) :
    (result = value ∧ (∃ data, atlas.tables.typeData value.id = .ok data) ∧
        atlas.tables.AtRest map value) ∨
      ¬atlas.tables.AtRest map value ∧ ∃ fewer next, left = fewer + 1 ∧
        atlas.followChain key map fewer next = .ok result := by
  rw [followChain_eq] at given
  obtain ⟨varies, read, given⟩ := Outcome.bind_eq_ok.1 given
  have reads := Tables.reads_of_isVariable read
  cases varies with
  | false =>
    obtain rfl := Except.ok.inj given
    refine .inl ⟨rfl, reads, fun bound => ?_⟩
    rw [(Tables.isVariable_iff _).2 bound] at read
    exact absurd (Except.ok.inj read) (by decide)
  | true =>
    rw [if_pos rfl] at given
    cases found : map.find? value.id with
    | none =>
      rw [found] at given
      obtain rfl := Except.ok.inj given
      exact .inl ⟨rfl, reads, fun _ next bound => nomatch found.symm.trans bound⟩
    | some next =>
      rw [found] at given
      simp only at given
      split at given
      · next rests =>
        obtain rfl := Except.ok.inj given
        refine .inl ⟨rfl, reads, fun _ other bound => ?_⟩
        obtain rfl := Option.some.inj (found.symm.trans bound)
        simpa using rests
      · next moves =>
        refine .inr ⟨fun rests => moves ?_, ?_⟩
        · simpa using rests ((Tables.isVariable_iff value).1 read) next found
        · cases left with
          | zero => cases given
          | succ fewer => exact ⟨fewer, _, rfl, given⟩

/-- A chain ends at rest, at a type that can be read. -/
theorem end_of_followChain {key left : Nat} {map : VarMap} {value result : TypeRef}
    (given : atlas.followChain key map left value = .ok result) :
    (∃ data, atlas.tables.typeData result.id = .ok data) ∧ atlas.tables.AtRest map result := by
  induction left generalizing value with
  | zero =>
    obtain ⟨rfl, rests⟩ | ⟨-, fewer, next, less, -⟩ := followChain_cases given
    · exact rests
    · cases less
  | succ left ih =>
    obtain ⟨rfl, rests⟩ | ⟨-, fewer, next, less, onward⟩ := followChain_cases given
    · exact rests
    · obtain rfl := Nat.succ.inj less
      exact ih onward

/-- A value at rest is the end of its chain. -/
theorem eq_of_followChain {key left : Nat} {map : VarMap} {value result : TypeRef}
    (given : atlas.followChain key map left value = .ok result)
    (rests : atlas.tables.AtRest map value) : result = value := by
  obtain ⟨same, -⟩ | ⟨moves, -⟩ := followChain_cases given
  · exact same
  · exact absurd rests moves

/-- What happens to the keys that are resolved one after the other, each in the map so far. -/
theorem resolveKeys_turns {keys : List Nat} (distinct : keys.Nodup) {start final : VarMap}
    (run : atlas.resolveKeys keys start = .ok final) :
    (∀ key ∉ keys, final.find? key = start.find? key) ∧
      ∀ key ∈ keys, ∀ value, start.find? key = some value → ∃ current result,
        current.find? key = some value ∧
        atlas.followChain key current atlas.config.hopLimit value = .ok result ∧
        final.find? key = some result ∧
        ∀ other, current.find? other = start.find? other ∨
          current.find? other = final.find? other := by
  induction keys generalizing start with
  | nil =>
    obtain rfl := Except.ok.inj run
    exact ⟨fun _ _ => rfl, fun _ listed => absurd listed List.not_mem_nil⟩
  | cons first rest ih =>
    obtain ⟨new, distinct⟩ := List.nodup_cons.1 distinct
    cases here : start.find? first with
    | none =>
      rw [resolveKeys_free rest here] at run
      obtain ⟨untouched, turns⟩ := ih distinct run
      refine ⟨fun key unlisted => untouched key fun listed =>
        unlisted (List.mem_cons_of_mem _ listed), fun key listed value found => ?_⟩
      rcases List.mem_cons.1 listed with rfl | listed
      · rw [here] at found
        cases found
      · exact turns key listed value found
    | some old =>
      rw [resolveKeys_bound rest here] at run
      obtain ⟨result, followed, run⟩ := Outcome.bind_eq_ok.1 run
      obtain ⟨untouched, turns⟩ := ih distinct run
      have settled : final.find? first = some result := by
        rw [untouched first new, VarMap.find?_insert, if_pos rfl]
      refine ⟨fun key unlisted => ?_, fun key listed value found => ?_⟩
      · obtain ⟨apart, unlisted⟩ := not_or.1 (mt List.mem_cons.2 unlisted)
        rw [untouched key unlisted, VarMap.find?_insert, if_neg apart]
      · rcases List.mem_cons.1 listed with rfl | listed
        · obtain rfl : old = value := Option.some.inj (here.symm.trans found)
          exact ⟨start, result, here, followed, settled, fun _ => .inl rfl⟩
        · have apart : key ≠ first := fun same => new (same ▸ listed)
          obtain ⟨current, result, there, followed, given, others⟩ := turns key listed value (by
            rw [VarMap.find?_insert, if_neg apart, found])
          refine ⟨current, result, there, followed, given, fun other => ?_⟩
          rcases others other with same | same
          · rw [VarMap.find?_insert] at same
            split at same
            · next here => exact .inr (same.trans (here ▸ settled).symm)
            · exact .inl same
          · exact .inr same

section

variable {map final : VarMap} {key : Nat} {value : TypeRef}

/-- What happens to a binding when its turn comes. -/
theorem resolveChains_turn (run : atlas.resolveChains map = .ok final)
    (found : map.find? key = some value) : ∃ current result,
      current.find? key = some value ∧
      atlas.followChain key current atlas.config.hopLimit value = .ok result ∧
      final.find? key = some result ∧
      ∀ other, current.find? other = map.find? other ∨
        current.find? other = final.find? other :=
  (resolveKeys_turns map.nodup_keys run).2 key ((VarMap.mem_keys_iff map key).2 ⟨value, found⟩)
    value
    found

theorem resolveChains_find?_eq_none (run : atlas.resolveChains map = .ok final)
    (free : map.find? key = none) : final.find? key = none := by
  rw [(resolveKeys_turns map.nodup_keys run).1 key, free]
  intro listed
  obtain ⟨value, bound⟩ := (VarMap.mem_keys_iff map key).1 listed
  exact nomatch free.symm.trans bound

/-- The binding of a variable stops a value of this variable before its turn exactly when it does so
afterwards. -/
theorem stops_iff (run : atlas.resolveChains map = .ok final)
    (varies : atlas.tables.IsTypeVariable value.id) {before after : TypeRef}
    (found : map.find? value.id = some before) (given : final.find? value.id = some after) :
    (VarMap.isSelf value.id after = true ∨ after = value) ↔
      (VarMap.isSelf value.id before = true ∨ before = value) := by
  obtain ⟨current, result, here, followed, given', -⟩ := resolveChains_turn run found
  obtain rfl : result = after := Option.some.inj (given'.symm.trans given)
  have same_id : ∀ {other : TypeRef}, VarMap.isSelf value.id other = true ∨ other = value →
      other.id = value.id := by
    rintro other (self | rfl)
    · rw [VarMap.isSelf_iff.1 self, TypeRef.plain]
    · rfl
  constructor
  · intro stops
    have rests := (end_of_followChain followed).2
    rw [Tables.AtRest, same_id stops] at rests
    rcases stops with self | rfl
    · exact .inl ((rests varies before here).elim id fun same => same ▸ self)
    · exact rests varies before here
  · intro stops
    have rests : atlas.tables.AtRest current before := fun _ next bound =>
      .inr (Option.some.inj ((same_id stops ▸ bound).symm.trans here))
    rwa [eq_of_followChain followed rests]

/-- **A binding stays as it is exactly when its value is at rest in the map as it was gathered.** -/
theorem resolveChains_keeps_iff (run : atlas.resolveChains map = .ok final)
    (found : map.find? key = some value) :
    final.find? key = some value ↔ atlas.tables.AtRest map value := by
  obtain ⟨current, result, -, followed, given, others⟩ := resolveChains_turn run found
  rw [given, Option.some_inj]
  constructor
  · rintro rfl varies next bound
    have rests := (end_of_followChain followed).2 varies
    rcases others result.id with same | same
    · exact rests next (same.trans bound)
    · obtain ⟨-, after, -, -, there, -⟩ := resolveChains_turn run bound
      exact (stops_iff run varies bound there).1 (rests after (same.trans there))
  · intro rests
    refine eq_of_followChain followed fun varies next bound => ?_
    rcases others value.id with same | same
    · exact rests varies next (same.symm.trans bound)
    · cases before : map.find? value.id with
      | none =>
        rw [same, resolveChains_find?_eq_none run before] at bound
        cases bound
      | some first =>
        exact (stops_iff run varies before (same.symm.trans bound)).2 (rests varies first before)

/-- **Following the chains in place leads every value to its rest.** -/
theorem resolved_of_resolveChains (run : atlas.resolveChains map = .ok final) :
    atlas.tables.Resolved final := by
  have ends : ∀ key value, final.find? key = some value →
      (∃ data, atlas.tables.typeData value.id = .ok data) ∧ atlas.tables.AtRest final value := by
    intro key value found
    obtain ⟨first, before⟩ : ∃ first, map.find? key = some first := by
      refine Option.ne_none_iff_exists'.1 fun free => ?_
      rw [resolveChains_find?_eq_none run free] at found
      cases found
    obtain ⟨current, result, -, followed, given, others⟩ := resolveChains_turn run before
    obtain rfl : result = value := Option.some.inj (given.symm.trans found)
    obtain ⟨reads, rests⟩ := end_of_followChain followed
    refine ⟨reads, fun varies next bound => ?_⟩
    rcases others result.id with early | late
    · -- the binding that stopped the chain may be replaced when its own turn comes
      cases there : map.find? result.id with
      | none =>
        rw [resolveChains_find?_eq_none run there] at bound
        cases bound
      | some old =>
        exact (stops_iff run varies there bound).2 (rests varies old (early.trans there))
    · exact rests varies next (late.trans bound)
  exact ⟨fun key value found => (ends key value found).1,
    fun key value found => (ends key value found).2⟩

end

/-- A value at rest that can be read is given back. -/
theorem followChain_of_atRest {map : VarMap} {value : TypeRef} (key left : Nat)
    (reads : ∃ data, atlas.tables.typeData value.id = .ok data)
    (rests : atlas.tables.AtRest map value) :
    atlas.followChain key map left value = .ok value := by
  rw [followChain_eq]
  by_cases varies : atlas.tables.IsTypeVariable value.id
  · rw [(Tables.isVariable_iff value).2 varies, Outcome.ok_bind, if_pos rfl]
    cases found : map.find? value.id with
    | none => rfl
    | some next =>
      have stops : (VarMap.isSelf value.id next || next == value) = true := by
        simpa using rests varies next found
      simp only [stops, if_true]
      rfl
  · rw [Tables.isVariable_eq_false reads varies]
    rfl

theorem resolveKeys_of_resolved {map : VarMap} (resolved : atlas.tables.Resolved map)
    (keys : List Nat) : atlas.resolveKeys keys map = .ok map := by
  induction keys with
  | nil => rfl
  | cons key rest ih =>
    cases found : map.find? key with
    | none => rw [resolveKeys_free rest found, ih]
    | some value =>
      have stays := followChain_of_atRest key atlas.config.hopLimit
        (resolved.reads key value found) (resolved.rests key value found)
      rw [resolveKeys_followed rest found stays, VarMap.insert_of_find? found, ih]

/-- **Following the chains of a resolved map once more changes nothing.** -/
theorem resolveChains_of_resolved {map : VarMap} (resolved : atlas.tables.Resolved map) :
    atlas.resolveChains map = .ok map :=
  resolveKeys_of_resolved resolved map.keys

/-! ## Every map that is given -/

/-- A map that is given is resolved, whatever is gathered. -/
theorem closed_resolved (atlas : Atlas) :
    atlas.Closed (fun _ => True) atlas.tables.Resolved fun _ => True where
  reads _ := Outcome.meets_true _
  empty := ⟨fun _ _ found => (nomatch found), fun _ _ found => (nomatch found)⟩
  self := by
    intro id record known
    have alone : ∀ key value, (VarMap.empty.insert id (.plain id)).find? key = some value →
        value = .plain id := by
      intro key value found
      rw [VarMap.find?_insert] at found
      split at found
      · exact (Option.some.inj found).symm
      · cases found
    constructor
    · intro key value found
      rw [alone key value found]
      exact ⟨_, known⟩
    · intro key value found varies next bound
      exact .inr ((alone _ next bound).trans (alone key value found).symm)
  takes _ := trivial
  merge _ _ := trivial
  bind _ := Outcome.meets_true _
  remap _ _ := Outcome.meets_true _
  resolve := by
    intro map _
    cases run : atlas.resolveChains map with
    | error fault => trivial
    | ok final => exact resolved_of_resolveChains run

theorem resolved_of_exhaustive {calls : List MapCall} {id : Nat} {map : VarMap}
    (given : (Work.onMaps (atlas.exhaustive id) (atlas.afterCalls calls)).1 = .ok map) :
    atlas.tables.Resolved map :=
  holds_of_exhaustive (fun _ _ id others => computeMap_meets atlas.closed_resolved id others) given

/-- **Every map that is given is fully resolved.**  A value that is a variable is not bound in the
map, or is bound to itself there, or to this very value.  So following the chains once more changes
nothing, and without the variables that stand for themselves no value leads to a different one. -/
theorem exhaustive_resolved (atlas : Atlas) (calls : List MapCall) (id : Nat) {map : VarMap}
    (given : (Work.onMaps (atlas.exhaustive id) (atlas.afterCalls calls)).1 = .ok map) :
    (∀ key value, map.find? key = some value → atlas.tables.IsTypeVariable value.id →
      map.find? value.id = none ∨ map.find? value.id = some (.plain value.id) ∨
        map.find? value.id = some value) ∧
    atlas.resolveChains map = .ok map ∧
    ∀ key value next, map.stripSelf.find? key = some value →
      atlas.tables.IsTypeVariable value.id → map.stripSelf.find? value.id = some next →
        next = value := by
  have resolved := resolved_of_exhaustive given
  refine ⟨fun key value found varies => ?_, resolveChains_of_resolved resolved, ?_⟩
  · cases bound : map.find? value.id with
    | none => exact .inl rfl
    | some next =>
      rcases resolved.rests key value found varies next bound with self | same
      · exact .inr (.inl (congrArg some (VarMap.isSelf_iff.1 self)))
      · exact .inr (.inr (congrArg some same))
  · intro key value next found varies bound
    obtain ⟨found, -⟩ := VarMap.find?_stripSelf.1 found
    obtain ⟨bound, moves⟩ := VarMap.find?_stripSelf.1 bound
    rcases resolved.rests key value found varies next bound with self | same
    · exact absurd (VarMap.isSelf_iff.1 self) moves
    · exact same

end Atlas

/-- A class with one variable, a field of which has the type of the variable, and the class applied
to arrays of the variable. -/
def Snapshot.arrayBox : Snapshot :=
  { empty with
    types := [
      .object [("n", .nat 0), ("v", .array [.nat 1]),
        ("f", .object [("n", .nat 2), ("t", .nat 1)])],
      .object [("tv", .nat 1)],
      .object [("r", .nat 0), ("v", .array [.array [.nat 1, .nat 1]])]]
    names := [.text "Box", .text "T", .text "value"] }

/-- The snapshot `arrayBox` with the usual settings. -/
def Atlas.arrayBox : Atlas :=
  ⟨.ofSnapshot .arrayBox, .default⟩

namespace Atlas

/-- The variable of the class stands for arrays of itself. -/
theorem arrayBox_exhaustive :
    (Work.onMaps (arrayBox.exhaustive 2) .empty).1 = .ok (VarMap.empty.insert 1 ⟨1, 1⟩) :=
  exhaustive_of_mapAlone (.of_behind (by decide)) (show arrayBox.mapAlone 2 2 = _ from rfl)

/-- The array of the variable is the value of the variable, so it leads no further. -/
theorem exhaustive_resolved_arrayBox :
    ∃ map, (Work.onMaps (arrayBox.exhaustive 2) (arrayBox.afterCalls [])).1 = .ok map ∧
      map.find? 1 = some ⟨1, 1⟩ ∧ arrayBox.resolveChains map = .ok map :=
  ⟨_, arrayBox_exhaustive, rfl, (exhaustive_resolved arrayBox [] 2 arrayBox_exhaustive).2.1⟩

end Atlas

end ClassAtlas
