import ClassAtlas.Proofs.Names

/-!
# Requests for names and packages

Names and packages are two directories (`Tables.nameDirectory`, `Tables.packageDirectory`), and
requests for the one leave the other as it is.  So what a name or a package is after any sequence of
requests is what the requests of its own kind have left (`name_afterRequests`).

A request for a link in the middle of a chain makes the rest of the chain shorter for later
requests, so names and packages do not depend on what was asked before exactly if they are broken
or nested within the limit (`texts_steady_iff`).  A chain of aliases that is one link too long is
refused at first and resolved after its last entry was asked for (`name_afterRequests_aliasChain`).
-/

set_option autoImplicit false

namespace ClassAtlas

/-- A request for a name or a package. -/
inductive TextRequest where
  | name (id : Nat)
  | package (id : Nat)

namespace TextRequest

/-- Answers a request. -/
def run (tables : Tables) : TextRequest → Work String
  | .name id => tables.name id
  | .package id => tables.packageName id

/-- The name that is asked for. -/
def name? : TextRequest → Option Nat
  | .name id => some id
  | .package _ => none

/-- The package that is asked for. -/
def package? : TextRequest → Option Nat
  | .name _ => none
  | .package id => some id

end TextRequest

namespace Tables

variable (tables : Tables)

/-- What is remembered after some requests on fresh tables, whether they gave texts or faults. -/
def afterRequests (requests : List TextRequest) : Memory :=
  requests.foldl (fun memory request => (request.run tables memory).2) .empty

variable {tables}

/-- After some requests names are remembered as after those for names, and packages likewise. -/
theorem foldl_run (requests : List TextRequest) (memory : Memory) :
    requests.foldl (fun memory request => (request.run tables memory).2) memory =
      { memory with
        names := (requests.filterMap TextRequest.name?).foldl tables.nameDirectory.ask memory.names
        packages := (requests.filterMap TextRequest.package?).foldl tables.packageDirectory.ask
          memory.packages } := by
  induction requests generalizing memory with
  | nil => rfl
  | cons request rest ih =>
    rw [List.foldl_cons, ih]
    cases request with
    | name id => rw [TextRequest.run, name_apply]; rfl
    | package id => rw [TextRequest.run, packageName_apply]; rfl

/-- **A name after any requests is what the requests for names have left.** -/
theorem name_afterRequests (requests : List TextRequest) (id : Nat) :
    (tables.name id (tables.afterRequests requests)).1 =
      tables.nameDirectory.answer (requests.filterMap TextRequest.name?) id := by
  rw [name_apply, afterRequests, foldl_run]
  rfl

/-- **A package after any requests is what the requests for packages have left.** -/
theorem packageName_afterRequests (requests : List TextRequest) (id : Nat) :
    (tables.packageName id (tables.afterRequests requests)).1 =
      tables.packageDirectory.answer (requests.filterMap TextRequest.package?) id := by
  rw [packageName_apply, afterRequests, foldl_run]
  rfl

/-- Any sequence of requests for one of the two tables can be left. -/
theorem filterMap_surjective {pick : TextRequest → Option Nat} (make : Nat → TextRequest)
    (picks : ∀ id, pick (make id) = some id) : Function.Surjective (List.filterMap pick) := by
  intro ids
  refine ⟨ids.map make, ?_⟩
  rw [List.filterMap_map, show pick ∘ make = some from funext picks, List.filterMap_some]

/-- **A name or a package does not depend on earlier requests if and only if it leads to a cycle or
out of its table or is nested within the limit.** -/
theorem texts_steady_iff (tables : Tables) (id : Nat) :
    ((∀ requests, (tables.name id (tables.afterRequests requests)).1.toOption =
        (tables.name id .empty).1.toOption) ↔
      tables.nameDirectory.Broken id ∨ Descent.Within tables.MadeOf (chainLimit + 1) id) ∧
    ((∀ requests, (tables.packageName id (tables.afterRequests requests)).1.toOption =
        (tables.packageName id .empty).1.toOption) ↔
      tables.packageDirectory.Broken id ∨
        Descent.Within tables.StandsIn (chainLimit + 1) id) := by
  have names : Function.Surjective (List.filterMap TextRequest.name?) :=
    filterMap_surjective .name fun _ => rfl
  have packages : Function.Surjective (List.filterMap TextRequest.package?) :=
    filterMap_surjective .package fun _ => rfl
  have name : (tables.name id .empty).1 = tables.nameDirectory.answer [] id :=
    name_afterRequests [] id
  have package : (tables.packageName id .empty).1 = tables.packageDirectory.answer [] id :=
    packageName_afterRequests [] id
  simp only [name_afterRequests, packageName_afterRequests, name, package]
  rw [← packageDirectory_refers]
  exact ⟨names.forall.symm.trans Directory.steady_iff,
    packages.forall.symm.trans Directory.steady_iff⟩

end Tables

/-- Names each of which is an alias of the next one, and a last one that is a text. -/
def Snapshot.aliasChain (links : Nat) : Snapshot :=
  { Snapshot.empty with
    names := (List.range links).map (fun id => .alias (id + 1)) ++ [.text "x"] }

namespace Tables

section

variable {links : Nat}

theorem aliasChain_alias {id : Nat} (inside : id < links) :
    (ofSnapshot (.aliasChain links)).names[id]? = some (.alias (id + 1)) := by
  simp [ofSnapshot, Snapshot.aliasChain, List.getElem?_append, inside]

theorem aliasChain_text (links : Nat) :
    (ofSnapshot (.aliasChain links)).names[links]? = some (.text "x") := by
  simp [ofSnapshot, Snapshot.aliasChain]

/-- Following the chain to its end takes a level for each link. -/
theorem resolveName_aliasChain {known : Std.HashMap Nat String}
    (new : ∀ id < links, known[id]? = none) (levels : Nat) {id left : Nat}
    (way : id + left = links) :
    (ofSnapshot (.aliasChain links)).resolveName known (levels + left) id =
      (ofSnapshot (.aliasChain links)).resolveName known levels links := by
  induction left generalizing id with
  | zero => rw [← way, Nat.add_zero, Nat.add_zero]
  | succ left ih =>
    have inside : id < links := by omega
    rw [← Nat.add_assoc, resolveName_succ (aliasChain_alias inside) (new id inside)]
    exact ih (by omega)

/-- With as many levels as links, the last entry is refused for want of a level. -/
theorem resolveName_aliasChain_fresh :
    (ofSnapshot (.aliasChain links)).resolveName ∅ links 0 =
      .error (.decode (.cyclicName links)) := by
  have new : ∀ id < links, (∅ : Std.HashMap Nat String)[id]? = none :=
    fun _ _ => Std.HashMap.getElem?_empty
  have chain := resolveName_aliasChain new 0 (Nat.zero_add links)
  rw [Nat.zero_add] at chain
  rw [chain]
  unfold resolveName
  simp only [aliasChain_text, Std.HashMap.getElem?_empty]

/-- When the last entry is remembered, no level is needed for it. -/
theorem resolveName_aliasChain_known :
    (ofSnapshot (.aliasChain links)).resolveName ((∅ : Std.HashMap Nat String).insert links "x")
      links 0 = .ok "x" := by
  have new : ∀ id < links, ((∅ : Std.HashMap Nat String).insert links "x")[id]? = none := by
    intro id inside
    have apart : links ≠ id := by omega
    simp [apart]
  have chain := resolveName_aliasChain new 0 (Nat.zero_add links)
  rw [Nat.zero_add] at chain
  rw [chain]
  exact resolveName_of_known (aliasChain_text links) Std.HashMap.getElem?_insert_self 0

theorem name_aliasChain (limit : links = chainLimit + 1) :
    ((ofSnapshot (.aliasChain links)).name 0 .empty).1 = .error (.decode (.cyclicName links)) ∧
      ((ofSnapshot (.aliasChain links)).name 0
        ((ofSnapshot (.aliasChain links)).afterRequests [.name links])).1 = .ok "x" := by
  have resolved : (ofSnapshot (.aliasChain links)).nameDirectory.resolve ∅ (chainLimit + 1) links =
      .ok "x" := resolveName_text (aliasChain_text links) chainLimit
  have last : ((ofSnapshot (.aliasChain links)).afterRequests [.name links]).names =
      (∅ : Std.HashMap Nat String).insert links "x" := by
    rw [afterRequests, foldl_run]
    exact Directory.ask_of_ok resolved
  rw [name_apply, name_apply, last, ← limit]
  exact ⟨resolveName_aliasChain_fresh, resolveName_aliasChain_known⟩

end

/-- The first name of a chain that is one link too long is refused as a cycle, and it is resolved
after the last one was. -/
theorem name_afterRequests_aliasChain :
    ((ofSnapshot (.aliasChain (chainLimit + 1))).name 0 .empty).1 =
        .error (.decode (.cyclicName (chainLimit + 1))) ∧
      ((ofSnapshot (.aliasChain (chainLimit + 1))).name 0
        ((ofSnapshot (.aliasChain (chainLimit + 1))).afterRequests [.name (chainLimit + 1)])).1 =
          .ok "x" :=
  name_aliasChain rfl

end Tables

end ClassAtlas
