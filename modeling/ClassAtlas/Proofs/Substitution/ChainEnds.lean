import ClassAtlas.Proofs.Descent
import ClassAtlas.Proofs.Substitution.Range
import ClassAtlas.Proofs.Substitution.Resolution

/-!
# The ends of chains

From a variable that is bound a chain leads on to what it is bound to, and ends at a type that is no
variable, at a variable without a binding, or at a variable that is bound to itself.  The array
dimensions of the bindings on the way add up (`Tables.ChainEnds`).  A type on no cycle of bindings
has such a chain (`exists_chainEnds`).

Chains are followed in place, so later keys go along bindings that were replaced by the ends of
their chains already, mixed with bindings as they were gathered.  Both lead to the same end, and a
replaced one with fewer steps (`followChain_of_chainEnds`).  So the keys can have their turns in any
order: each is bound to the end of its chain in the map as it was gathered
(`resolveKeys_of_chainEnds`).

A chain that goes round a cycle of two or more variables is never replaced before its own turn, and
then it is not followed to an end, however many steps there are (`resolveKeys_loops`).
-/

set_option autoImplicit false

namespace ClassAtlas

open Relation (ReflTransGen TransGen)

namespace Tables

variable {tables : Tables} {map : VarMap} {id steps last depth : Nat} {value next : TypeRef}

/-- A type variable leads to the type that it is bound to. -/
def Leads (tables : Tables) (map : VarMap) (id next : Nat) : Prop :=
  tables.IsTypeVariable id ∧ ∃ ref, map.find? id = some ref ∧ ref.id = next

/-- A chain does not go on from a type: it is no variable, or a variable that is not bound or is
bound to itself. -/
def Halts (tables : Tables) (map : VarMap) (id : Nat) : Prop :=
  tables.IsTypeVariable id → map.find? id = none ∨ map.find? id = some (.plain id)

/-- The chain of bindings from a type ends at a type, after so many steps and with so many array
dimensions met on the way. -/
inductive ChainEnds (tables : Tables) (map : VarMap) : (id steps last depth : Nat) → Prop where
  | rest {id : Nat} (halts : tables.Halts map id) : ChainEnds tables map id 0 id 0
  | step {id steps last depth : Nat} {next : TypeRef} (varies : tables.IsTypeVariable id)
      (bound : map.find? id = some next) (moves : next ≠ .plain id)
      (onward : ChainEnds tables map next.id steps last depth) :
      ChainEnds tables map id (steps + 1) last (next.depth + depth)

/-! ## Chains -/

theorem leads_unique (tables : Tables) (map : VarMap) : Relator.RightUnique (tables.Leads map) := by
  rintro id next other ⟨-, ref, bound, rfl⟩ ⟨-, _, again, rfl⟩
  cases bound.symm.trans again
  rfl

theorem Halts.not_moves (halts : tables.Halts map id) (varies : tables.IsTypeVariable id)
    (bound : map.find? id = some next) : next = .plain id := by
  rcases halts varies with free | itself
  · cases bound.symm.trans free
  · exact Option.some.inj (bound.symm.trans itself)

theorem ChainEnds.halts (ends : tables.ChainEnds map id steps last depth) :
    tables.Halts map last := by
  induction ends with
  | rest halts => exact halts
  | step _ _ _ _ ih => exact ih

/-- A chain has one end. -/
theorem ChainEnds.unique {steps' last' depth' : Nat}
    (ends : tables.ChainEnds map id steps last depth)
    (again : tables.ChainEnds map id steps' last' depth') :
    steps = steps' ∧ last = last' ∧ depth = depth' := by
  induction ends generalizing steps' depth' with
  | rest halts =>
    cases again with
    | rest => exact ⟨rfl, rfl, rfl⟩
    | step varies bound moves => exact absurd (halts.not_moves varies bound) moves
  | step varies bound moves _ ih =>
    cases again with
    | rest halts => exact absurd (halts.not_moves varies bound) moves
    | step _ bound' _ onward' =>
      obtain rfl := Option.some.inj (bound.symm.trans bound')
      obtain ⟨rfl, rfl, rfl⟩ := ih onward'
      exact ⟨rfl, rfl, rfl⟩

/-- A chain that ends does not begin with a variable that is bound to arrays of itself. -/
theorem ChainEnds.ne_of_step (varies : tables.IsTypeVariable id)
    (bound : map.find? id = some next) (moves : next ≠ .plain id)
    (onward : tables.ChainEnds map next.id steps last depth) : next.id ≠ id := by
  intro same
  obtain ⟨more, -, -⟩ := (same ▸ onward).unique (.step varies bound moves onward)
  omega

/-- What a chain leads to can be read when all that is bound can. -/
theorem ChainEnds.reads (ends : tables.ChainEnds map id steps last depth)
    (reads : ∀ key value, map.find? key = some value → ∃ data, tables.typeData value.id = .ok data)
    (here : ∃ data, tables.typeData id = .ok data) : ∃ data, tables.typeData last = .ok data := by
  induction ends with
  | rest => exact here
  | step _ bound _ _ ih => exact ih (reads _ _ bound)

/-- **A type that reaches no cycle of bindings has a chain that ends.** -/
theorem exists_chainEnds (acyclic : ∀ other, ReflTransGen (tables.Leads map) id other →
    ¬TransGen (tables.Leads map) other other) :
    ∃ steps last depth, tables.ChainEnds map id steps last depth := by
  let all : Finset Nat := insert id (map.entries.map fun entry => entry.2.id).toFinset
  have inside : ∀ outer ∈ all, ∀ inner, tables.Leads map outer inner → inner ∈ all := by
    rintro outer - inner ⟨-, ref, bound, rfl⟩
    refine Finset.mem_insert_of_mem (List.mem_toFinset.2 (List.mem_map.2 ⟨(outer, ref), ?_, rfl⟩))
    exact (VarMap.mem_entries_iff map outer ref).2 bound
  have ends := (Descent.within_of_acyclic inside (Finset.mem_insert_self id _) acyclic).ends
  clear inside
  induction ends with
  | intro id _ ih =>
    by_cases halts : tables.Halts map id
    · exact ⟨0, id, 0, .rest halts⟩
    · obtain ⟨varies, moves⟩ := Classical.not_imp.1 halts
      obtain ⟨unfree, other⟩ := not_or.1 moves
      obtain ⟨next, bound⟩ := Option.ne_none_iff_exists'.1 unfree
      have leads : tables.Leads map id next.id := ⟨varies, next, bound, rfl⟩
      obtain ⟨steps, last, depth, onward⟩ := ih next.id leads
        fun other way => acyclic other (.head leads way)
      exact ⟨steps + 1, last, next.depth + depth,
        .step varies bound (fun same => other (same ▸ bound)) onward⟩

end Tables

/-! ## Values that are carried along -/

namespace TypeRef

/-- A value at the end of its chain, in the dimensions that it had and those met on the way. -/
def carried (value : TypeRef) (steps last depth : Nat) : TypeRef :=
  if steps = 0 then value else ⟨last, (depth + value.depth) % limit32⟩

theorem carried_zero (value : TypeRef) (last depth : Nat) : value.carried 0 last depth = value :=
  if_pos rfl

/-- It makes no difference whether dimensions are added before a value is carried or after. -/
theorem carried_deepen (value : TypeRef) (steps last depth extra : Nat) :
    (value.deepen extra).carried steps last depth =
      (value.carried steps last depth).deepen extra := by
  cases steps with
  | zero => rfl
  | succ steps =>
    simp only [carried, Nat.succ_ne_zero, if_false, deepen, Nat.add_mod_mod, Nat.mod_add_mod,
      Nat.add_assoc]

section

variable {tables : Tables} {map : VarMap} {value : TypeRef} {steps last depth : Nat}
  (ends : tables.ChainEnds map value.id steps last depth)

include ends

theorem carried_id : (value.carried steps last depth).id = last := by
  generalize start : value.id = id at ends
  cases ends with
  | rest => exact start
  | step => rfl

/-- Without a carry at 32 digits the dimensions are added up. -/
theorem carried_eq (small : value.depth + depth < limit32) :
    value.carried steps last depth = ⟨last, value.depth + depth⟩ := by
  generalize start : value.id = id at ends
  cases ends with
  | rest =>
    subst start
    rfl
  | step =>
    rw [carried, if_neg (Nat.succ_ne_zero _), Nat.add_comm, Nat.mod_eq_of_lt small]

/-- Carrying a value one step further back. -/
theorem carried_succ (first : TypeRef) :
    first.carried (steps + 1) last (value.depth + depth) =
      (value.carried steps last depth).deepen first.depth := by
  have same := carried_id ends
  rw [carried, if_neg (Nat.succ_ne_zero _), deepen, same]
  generalize start : value.id = id at ends
  cases ends with
  | rest => rfl
  | step =>
    rw [carried, if_neg (Nat.succ_ne_zero _), Nat.mod_add_mod]
    congr 2
    omega

end

end TypeRef

namespace Tables

variable {tables : Tables} {map current : VarMap} {key : Nat}

/-- A variable stands for the end of its chain, or for nothing when it is not bound. -/
def ChainValue (tables : Tables) (map : VarMap) (key : Nat) : Option TypeRef → Prop
  | none => map.find? key = none
  | some result => ∃ value steps last depth, map.find? key = some value ∧
      tables.ChainEnds map value.id steps last depth ∧ result = value.carried steps last depth

theorem ChainValue.eq_none {result : Option TypeRef} (stands : tables.ChainValue map key result)
    (free : map.find? key = none) : result = none := by
  cases result with
  | none => rfl
  | some result =>
    obtain ⟨_, _, _, _, bound, -⟩ := stands
    cases bound.symm.trans free

theorem ChainValue.eq_some {result : Option TypeRef} (stands : tables.ChainValue map key result)
    {value : TypeRef} {steps last depth : Nat} (bound : map.find? key = some value)
    (ends : tables.ChainEnds map value.id steps last depth) :
    result = some (value.carried steps last depth) := by
  cases result with
  | none => cases bound.symm.trans (show map.find? key = none from stands)
  | some result =>
    obtain ⟨other, _, _, _, found, again, rfl⟩ := stands
    obtain rfl := Option.some.inj (bound.symm.trans found)
    obtain ⟨rfl, rfl, rfl⟩ := ends.unique again
    rfl

/-- A map in which some values were replaced by the ends of their chains. -/
def PartlyFollowed (tables : Tables) (map current : VarMap) : Prop :=
  ∀ key, current.find? key = map.find? key ∨ tables.ChainValue map key (current.find? key)

theorem PartlyFollowed.eq_none (partly : tables.PartlyFollowed map current)
    (free : map.find? key = none) : current.find? key = none := by
  rcases partly key with same | changed
  · rw [same, free]
  · exact changed.eq_none free

/-- What a bound variable stands for on the way: its value, or the value carried to its end. -/
theorem PartlyFollowed.cases (partly : tables.PartlyFollowed map current) {value : TypeRef}
    {steps last depth : Nat} (bound : map.find? key = some value)
    (ends : tables.ChainEnds map value.id steps last depth) :
    current.find? key = some value ∨
      current.find? key = some (value.carried steps last depth) := by
  rcases partly key with same | changed
  · exact .inl (same.trans bound)
  · exact .inr (changed.eq_some bound ends)

/-- One more value may be replaced by the end of its chain. -/
theorem PartlyFollowed.insert (partly : tables.PartlyFollowed map current) {result : TypeRef}
    (settled : tables.ChainValue map key (some result)) :
    tables.PartlyFollowed map (current.insert key result) := by
  intro other
  rw [VarMap.find?_insert]
  split
  · next same => exact .inr (same ▸ settled)
  · exact partly other

/-- The end of a chain is at rest all the time. -/
theorem PartlyFollowed.atRest (partly : tables.PartlyFollowed map current) {value : TypeRef}
    (halts : tables.Halts map value.id) : tables.AtRest current value := by
  intro varies next found
  rcases halts varies with free | itself
  · cases found.symm.trans (partly.eq_none free)
  · rcases partly.cases itself (.rest halts) with same | same
    · exact .inl (VarMap.isSelf_iff.2 (Option.some.inj (found.symm.trans same)))
    · exact .inl (VarMap.isSelf_iff.2 (Option.some.inj (found.symm.trans same)))

end Tables

namespace Atlas

variable {atlas : Atlas} {map current : VarMap}

/-! ## Chains that end -/

/-- A variable that is bound to another type is followed one step. -/
theorem followChain_step (key left : Nat) {value hop : TypeRef}
    (varies : atlas.tables.IsTypeVariable value.id) (found : current.find? value.id = some hop)
    (other : hop.id ≠ value.id) :
    atlas.followChain key current left value =
      match left with
      | 0 => throw (.substitutionLoop key (atlas.config.hopLimit + 1))
      | left + 1 => atlas.followChain key current left (hop.deepen value.depth) := by
  have goesOn : ¬(VarMap.isSelf value.id hop || hop == value) = true := by
    intro rests
    rcases Bool.or_eq_true_iff.1 rests with self | same
    · rw [VarMap.isSelf_iff.1 self] at other
      exact other rfl
    · rw [beq_iff_eq.1 same] at other
      exact other rfl
  rw [followChain_eq, (Tables.isVariable_iff value).2 varies, Outcome.ok_bind, if_pos rfl, found]
  exact if_neg goesOn

section

variable (reads : ∀ key value, map.find? key = some value →
    ∃ data, atlas.tables.typeData value.id = .ok data)
  (partly : atlas.tables.PartlyFollowed map current)

include reads partly

/-- **A value is followed to the end of its chain**, through bindings as they were gathered and
bindings that were replaced.  By induction on the chain in the map as it was gathered; a binding
that was replaced leads to the end at once. -/
theorem followChain_of_chainEnds (key : Nat) {left id steps last depth : Nat}
    (ends : atlas.tables.ChainEnds map id steps last depth) {value : TypeRef}
    (start : value.id = id)
    (here : ∃ data, atlas.tables.typeData value.id = .ok data) (enough : steps ≤ left) :
    atlas.followChain key current left value = .ok (value.carried steps last depth) := by
  induction ends generalizing left value with
  | rest halts =>
    subst start
    rw [TypeRef.carried_zero]
    exact followChain_of_atRest key left here (partly.atRest halts)
  | @step id steps last depth next varies bound moves onward ih =>
    subst start
    obtain ⟨left, rfl⟩ := Nat.exists_eq_add_one_of_ne_zero (Nat.ne_zero_of_lt enough)
    have readable := reads value.id next bound
    have arrived := TypeRef.carried_id onward
    rw [TypeRef.carried_succ onward]
    rcases partly.cases bound onward with found | found
    · refine (followChain_step key _ varies found (onward.ne_of_step varies bound moves)).trans ?_
      rw [← TypeRef.carried_deepen]
      exact ih rfl readable (Nat.le_of_succ_le_succ enough)
    · have halts : atlas.tables.Halts map (next.carried steps last depth).id := by
        rw [arrived]
        exact onward.halts
      have other : (next.carried steps last depth).id ≠ value.id := fun same =>
        moves ((same ▸ halts).not_moves varies bound)
      refine (followChain_step key _ varies found other).trans ?_
      refine followChain_of_atRest key left ?_ (partly.atRest halts)
      have reached := onward.reads reads readable
      rwa [← arrived] at reached

/-! ## Keys in any order -/

/-- When the turn of a bound key comes, what it is bound to by then is followed to the end of its
chain in the map as it was gathered. -/
theorem followChain_turn {key steps last depth : Nat} {value : TypeRef}
    (bound : map.find? key = some value)
    (ends : atlas.tables.ChainEnds map value.id steps last depth)
    (enough : steps ≤ atlas.config.hopLimit) :
    ∃ old, current.find? key = some old ∧
      atlas.followChain key current atlas.config.hopLimit old =
        .ok (value.carried steps last depth) := by
  have readable := reads key value bound
  rcases partly.cases bound ends with found | found
  · exact ⟨value, found, followChain_of_chainEnds reads partly key ends rfl readable enough⟩
  · have arrived := TypeRef.carried_id ends
    refine ⟨_, found, followChain_of_atRest key _ ?_ (partly.atRest ?_)⟩
    · rw [arrived]
      exact ends.reads reads readable
    · rw [arrived]
      exact ends.halts

/-- **Whatever the order of the keys, each that has had its turn is bound to the end of its chain**
in the map as it was gathered, and the others are left as they are. -/
theorem resolveKeys_of_chainEnds
    (short : ∀ key value, map.find? key = some value → ∃ steps last depth,
      atlas.tables.ChainEnds map value.id steps last depth ∧ steps ≤ atlas.config.hopLimit)
    (keys : List Nat) :
    ∃ resolved, atlas.resolveKeys keys current = .ok resolved ∧ ∀ key,
      (key ∈ keys → atlas.tables.ChainValue map key (resolved.find? key)) ∧
        (key ∉ keys → resolved.find? key = current.find? key) := by
  induction keys generalizing current with
  | nil =>
    exact ⟨current, rfl, fun key =>
      ⟨fun listed => absurd listed List.not_mem_nil, fun _ => rfl⟩⟩
  | cons first rest ih =>
    cases bound : map.find? first with
    | none =>
      have free := partly.eq_none bound
      obtain ⟨resolved, run, turns⟩ := ih partly
      refine ⟨resolved, (resolveKeys_free rest free).trans run, fun key => ⟨fun listed => ?_,
        fun unlisted => (turns key).2 fun later => unlisted (List.mem_cons_of_mem _ later)⟩⟩
      by_cases later : key ∈ rest
      · exact (turns key).1 later
      · obtain rfl := (List.mem_cons.1 listed).resolve_right later
        rw [(turns key).2 later, free]
        exact bound
    | some value =>
      obtain ⟨steps, last, depth, ends, enough⟩ := short first value bound
      have settled : atlas.tables.ChainValue map first (some (value.carried steps last depth)) :=
        ⟨value, steps, last, depth, bound, ends, rfl⟩
      obtain ⟨old, found, followed⟩ := followChain_turn reads partly bound ends enough
      obtain ⟨resolved, run, turns⟩ := ih (partly.insert settled)
      refine ⟨resolved, (resolveKeys_followed rest found followed).trans run,
        fun key => ⟨fun listed => ?_, fun unlisted => ?_⟩⟩
      · by_cases later : key ∈ rest
        · exact (turns key).1 later
        · obtain rfl := (List.mem_cons.1 listed).resolve_right later
          rw [(turns key).2 later, VarMap.find?_insert, if_pos rfl]
          exact settled
      · obtain ⟨other, unlisted⟩ := not_or.1 (mt List.mem_cons.2 unlisted)
        rw [(turns key).2 unlisted, VarMap.find?_insert, if_neg other]

end

/-- **Following the chains of a map binds every key to the end of its chain.** -/
theorem resolveChains_of_chainEnds
    (reads : ∀ key value, map.find? key = some value →
      ∃ data, atlas.tables.typeData value.id = .ok data)
    (short : ∀ key value, map.find? key = some value → ∃ steps last depth,
      atlas.tables.ChainEnds map value.id steps last depth ∧ steps ≤ atlas.config.hopLimit) :
    ∃ resolved, atlas.resolveChains map = .ok resolved ∧
      ∀ key, atlas.tables.ChainValue map key (resolved.find? key) := by
  have start : atlas.tables.PartlyFollowed map map := fun _ => .inl rfl
  obtain ⟨resolved, run, turns⟩ := resolveKeys_of_chainEnds reads start short map.keys
  refine ⟨resolved, run, fun key => ?_⟩
  by_cases listed : key ∈ map.keys
  · exact (turns key).1 listed
  · rw [(turns key).2 listed]
    cases found : map.find? key with
    | none => exact found
    | some value => exact absurd ((VarMap.mem_keys_iff map key).2 ⟨value, found⟩) listed

end Atlas

/-! ## Chains that go round -/

namespace Tables

variable {tables : Tables} {map : VarMap} {id other : Nat}

/-- The chain from a type runs into a cycle of at least two variables. -/
def Loops (tables : Tables) (map : VarMap) (id : Nat) : Prop :=
  ∃ first second, first ≠ second ∧ ReflTransGen (tables.Leads map) id first ∧
    TransGen (tables.Leads map) first second ∧ TransGen (tables.Leads map) second first

/-- A variable that is bound to itself, as an array perhaps, leads to nothing else. -/
theorem eq_of_leads_self (itself : tables.Leads map id id)
    (way : ReflTransGen (tables.Leads map) id other) : other = id := by
  induction way with
  | refl => rfl
  | tail _ step ih =>
    subst ih
    exact tables.leads_unique map step itself

/-- A chain that runs into a cycle leads on from one type to another, and goes on to do so. -/
theorem Loops.onward (loops : tables.Loops map id) :
    ∃ next, tables.IsTypeVariable id ∧ map.find? id = some next ∧ next.id ≠ id ∧
      tables.Loops map next.id := by
  obtain ⟨first, second, apart, way, there, back⟩ := loops
  obtain ⟨inner, leads, further⟩ : ∃ inner, tables.Leads map id inner ∧ tables.Loops map inner := by
    rcases ReflTransGen.cases_head way with rfl | ⟨inner, leads, rest⟩
    · obtain ⟨inner, leads, rest⟩ := TransGen.head'_iff.1 there
      exact ⟨inner, leads, second, id, apart.symm, rest, back, there⟩
    · exact ⟨inner, leads, first, second, apart, rest, there, back⟩
  have different : inner ≠ id := by
    rintro rfl
    have toSecond := way.trans there.to_reflTransGen
    exact apart ((eq_of_leads_self leads way).trans (eq_of_leads_self leads toSecond).symm)
  obtain ⟨varies, next, bound, rfl⟩ := leads
  exact ⟨next, varies, bound, different, further⟩

end Tables

namespace Atlas

variable {atlas : Atlas} {map current : VarMap}

/-- Following a value gives another one that can be read, or its chain is too long. -/
theorem followChain_ends
    (reads : ∀ key value, current.find? key = some value →
      ∃ data, atlas.tables.typeData value.id = .ok data)
    (key left : Nat) {value : TypeRef} (here : ∃ data, atlas.tables.typeData value.id = .ok data) :
    Outcome.Meets (atlas.followChain key current left value)
      (fun result => ∃ data, atlas.tables.typeData result.id = .ok data)
      (· = .substitutionLoop key (atlas.config.hopLimit + 1)) := by
  have readable : current.ValuesIn fun id => ∃ data, atlas.tables.typeData id = .ok data :=
    reads
  refine followChain_within key left ?_ ?_ readable here
  · rintro id ⟨data, known⟩
    rw [known]
    exact trivial
  · rfl

section

variable (kept : ∀ id, atlas.tables.Loops map id → current.find? id = map.find? id)

include kept

/-- **A chain that runs into a cycle is not followed to an end**, with any number of steps. -/
theorem followChain_loops (key left : Nat) {value : TypeRef}
    (loops : atlas.tables.Loops map value.id) :
    atlas.followChain key current left value =
      .error (.substitutionLoop key (atlas.config.hopLimit + 1)) := by
  obtain ⟨next, varies, bound, other, further⟩ := loops.onward
  have found := (kept value.id loops).trans bound
  induction left generalizing value next with
  | zero => exact followChain_step key 0 varies found other
  | succ left ih =>
    refine (followChain_step key (left + 1) varies found other).trans ?_
    obtain ⟨next', varies', bound', other', further'⟩ := further.onward
    exact ih further next' varies' bound' other' further' ((kept next.id further).trans bound')

theorem not_loops_of_followChain {key left : Nat} {value result : TypeRef}
    (followed : atlas.followChain key current left value = .ok result) :
    ¬atlas.tables.Loops map value.id := fun loops => by
  cases followed.symm.trans (followChain_loops kept key left loops)

/-- A variable whose chain runs into a cycle is no key that was followed to an end. -/
theorem ne_of_loops {first left : Nat} {old result : TypeRef}
    (found : current.find? first = some old)
    (followed : atlas.followChain first current left old = .ok result) {id : Nat}
    (loops : atlas.tables.Loops map id) : id ≠ first := by
  rintro rfl
  obtain ⟨next, -, gathered, -, further⟩ := loops.onward
  obtain rfl := Option.some.inj (found.symm.trans ((kept _ loops).trans gathered))
  exact not_loops_of_followChain kept followed further

/-- Up to its turn the value of a key whose chain runs into a cycle stays as it is, so when the turn
comes the chain is too long, unless another one was before. -/
theorem resolveKeys_loops {keys : List Nat}
    (reads : ∀ key value, current.find? key = some value →
      ∃ data, atlas.tables.typeData value.id = .ok data)
    (some : ∃ key ∈ keys, ∃ value, current.find? key = some value ∧
      atlas.tables.Loops map value.id) :
    ∃ key ∈ keys, atlas.resolveKeys keys current =
      .error (.substitutionLoop key (atlas.config.hopLimit + 1)) := by
  induction keys generalizing current with
  | nil =>
    obtain ⟨key, listed, -⟩ := some
    exact absurd listed List.not_mem_nil
  | cons first rest ih =>
    obtain ⟨key, listed, value, bound, loops⟩ := some
    cases found : current.find? first with
    | none =>
      have later : key ∈ rest := by
        refine (List.mem_cons.1 listed).resolve_left ?_
        rintro rfl
        cases bound.symm.trans found
      obtain ⟨stuck, member, run⟩ := ih kept reads ⟨key, later, value, bound, loops⟩
      exact ⟨stuck, List.mem_cons_of_mem _ member, (resolveKeys_free rest found).trans run⟩
    | some old =>
      have outcome := followChain_ends reads first atlas.config.hopLimit (reads first old found)
      cases followed : atlas.followChain first current atlas.config.hopLimit old with
      | error fault =>
        rw [followed] at outcome
        obtain rfl : fault = _ := outcome
        refine ⟨first, List.mem_cons_self, ?_⟩
        rw [resolveKeys_bound rest found, followed]
        rfl
      | ok result =>
        rw [followed] at outcome
        have other : key ≠ first := by
          rintro rfl
          obtain rfl := Option.some.inj (bound.symm.trans found)
          exact not_loops_of_followChain kept followed loops
        have kept' : ∀ id, atlas.tables.Loops map id →
            (current.insert first result).find? id = map.find? id := by
          intro id round
          rw [VarMap.find?_insert, if_neg (ne_of_loops kept found followed round), kept id round]
        have readable : current.ValuesIn fun id => ∃ data, atlas.tables.typeData id = .ok data :=
          reads
        have reads' : (current.insert first result).ValuesIn _ := readable.insert outcome
        have still : (current.insert first result).find? key = some value := by
          rw [VarMap.find?_insert, if_neg other, bound]
        have later := (List.mem_cons.1 listed).resolve_left other
        obtain ⟨stuck, member, run⟩ := ih kept' reads' ⟨key, later, value, still, loops⟩
        exact ⟨stuck, List.mem_cons_of_mem _ member,
          (resolveKeys_followed rest found followed).trans run⟩

end

end Atlas

/-! ## A chain of three letters -/

/-- Three type variables. -/
def Snapshot.threeLetters : Snapshot :=
  { empty with
    types := [.object [("tv", .nat 0)], .object [("tv", .nat 1)], .object [("tv", .nat 2)]]
    names := [.text "T", .text "U", .text "V"] }

namespace Atlas

/-- The snapshot `threeLetters` with the usual settings. -/
def threeLetters : Atlas :=
  ⟨.ofSnapshot .threeLetters, .default⟩

/-- The first letter is bound to arrays of the second one, and the second one to arrays of arrays of
the third one. -/
def threeLetters.chained : VarMap :=
  ⟨[(0, ⟨1, 1⟩), (1, ⟨2, 2⟩)], by decide⟩

theorem threeLetters_chained_last : threeLetters.tables.ChainEnds threeLetters.chained 2 0 2 0 :=
  .rest fun _ => .inl (by decide)

theorem threeLetters_chained_second : threeLetters.tables.ChainEnds threeLetters.chained 1 1 2 2 :=
  .step ⟨_, rfl⟩ (show threeLetters.chained.find? 1 = some ⟨2, 2⟩ by decide) (by decide)
    threeLetters_chained_last

end Atlas

end ClassAtlas
