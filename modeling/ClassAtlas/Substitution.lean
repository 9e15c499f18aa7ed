import ClassAtlas.Work

/-!
# Substitution of type variables

What each type variable that can be met through a type stands for.  A parameterized type binds the
variables of its class by position; then come the bindings inherited from its class and from its
owner types.  A class takes the bindings of its super class first and then of its interfaces; the
first binding of a variable wins.  At last every value that is itself a bound variable is followed
to the end of its chain.

A map is computed once for each type and remembered, also when a later part of the computation ends
in a fault.  The types whose maps are being computed form a stack; meeting one of them again is a
fault, except through owner types, which then contribute nothing.  So the nesting is bounded by the
number of types.
-/

set_option autoImplicit false

namespace ClassAtlas

/-- Substitution maps by type. -/
abbrev MapMemory : Type := Std.HashMap Nat VarMap

namespace Atlas

open Work (lift)

/-- The variables that the class of a parameterized type declares. -/
def declaredVariables (atlas : Atlas) (id : Nat) (record : ParameterizedRecord) :
    Except Fault (List Nat) := do
  match ← atlas.tables.class? record.rawType.id with
  | some declaring => return declaring.typeVariables
  | none => throw (.decode (.rawNotClass record.rawType.id id (some (atlas.tables.rawType id))))

/-- The bindings by position, each over an older one. -/
def positional (declared : List Nat) (arguments : List TypeRef) (map : VarMap) : VarMap :=
  (declared.zip arguments).foldl (fun map pair => map.insert pair.1 pair.2) map

/-- Binds the variables of a parameterized type by position. -/
def bindPositional (atlas : Atlas) (id : Nat) (record : ParameterizedRecord) (map : VarMap) :
    Except Fault VarMap := do
  let declared ← atlas.declaredVariables id record
  return positional declared record.arguments map

/-- Follows a variable through a map for as many steps as are left: to a type that is no variable,
or to a variable without a binding.  `none` if the way ends at a variable that stands for itself. -/
def followArgument (atlas : Atlas) (declared : Nat) (map : VarMap) :
    Nat → TypeRef → Except Fault (Option TypeRef)
  | left, current =>
    match map.find? current.id with
    | none => .ok (some current)
    | some next =>
      if VarMap.isSelf current.id next then .ok none
      else do
        let next := next.deepen current.depth
        if ← atlas.tables.isVariable next then
          match left with
          | 0 => throw (.substitutionLoop declared (atlas.config.hopLimit + 1))
          | left + 1 => followArgument atlas declared map left next
        else return some next

/-- Binds one variable to an argument as seen through the map, unless it is bound already. -/
def remapOne (atlas : Atlas) (declared : Nat) (argument : TypeRef) (map : VarMap) :
    Except Fault VarMap := do
  if map.contains declared then return map
  else if ← atlas.tables.isVariable argument then
    match ← atlas.followArgument declared map atlas.config.hopLimit argument with
    | some value => return map.insert declared value
    | none => return map
  else return map.insert declared argument

/-- Binds variables to arguments one after the other, each through the map so far. -/
def remapPairs (atlas : Atlas) : List (Nat × TypeRef) → VarMap → Except Fault VarMap
  | [], map => .ok map
  | (declared, argument) :: rest, map => do
    let map ← atlas.remapOne declared argument map
    remapPairs atlas rest map

/-- Binds the variables of a parameterized supertype through the map so far. -/
def remap (atlas : Atlas) (id : Nat) (record : ParameterizedRecord) (map : VarMap) :
    Except Fault VarMap := do
  let declared ← atlas.declaredVariables id record
  atlas.remapPairs (declared.zip record.arguments) map

/-- Follows a value through a map for as many steps as are left, to the end of its chain. -/
def followChain (atlas : Atlas) (key : Nat) (map : VarMap) :
    Nat → TypeRef → Except Fault TypeRef
  | left, value => do
    if ← atlas.tables.isVariable value then
      match map.find? value.id with
      | none => return value
      | some next =>
        if VarMap.isSelf value.id next || next == value then return value
        else
          match left with
          | 0 => throw (.substitutionLoop key (atlas.config.hopLimit + 1))
          | left + 1 => followChain atlas key map left (next.deepen value.depth)
    else return value

/-- Replaces the values of some keys by the ends of their chains, each in the map so far. -/
def resolveKeys (atlas : Atlas) : List Nat → VarMap → Except Fault VarMap
  | [], map => .ok map
  | key :: rest, map =>
    match map.find? key with
    | none => resolveKeys atlas rest map
    | some value => do
      let value ← atlas.followChain key map atlas.config.hopLimit value
      resolveKeys atlas rest (map.insert key value)

/-- Replaces every value by the end of its chain, in ascending order of the keys. -/
def resolveChains (atlas : Atlas) (map : VarMap) : Except Fault VarMap :=
  atlas.resolveKeys map.keys map

/-- Adds the bindings of owner types, of `left` owners at most.  `nested` gives the map of a class;
classes on the stack contribute nothing. -/
def mergeOwners (atlas : Atlas) (nested : Nat → Remembering MapMemory VarMap)
    (stack : List Nat) : Nat → Option TypeRef → VarMap → Remembering MapMemory VarMap
  | _, none, map => pure map
  | 0, some _, map => pure map
  | left + 1, some owner, map => do
    match ← lift (atlas.tables.typeData owner.id) with
    | .parameterized record => do
      let level ← lift (atlas.bindPositional owner.id record .empty)
      let map := map.mergeMissing level
      let map ←
        if stack.contains record.rawType.id then pure map
        else pure (map.mergeMissing (← nested record.rawType.id))
      mergeOwners atlas nested stack left record.ownerType map
    | .rawClass _ =>
      if stack.contains owner.id then return map
      else return map.mergeMissing (← nested owner.id)
    | .typeVariable _ => return map
    | .wildcard _ => return map

/-- Adds the bindings of the supertypes of a class, one supertype after the other. -/
def mergeSupertypes (atlas : Atlas) (nested : Nat → Remembering MapMemory VarMap)
    (stack : List Nat) : List TypeRef → VarMap → Remembering MapMemory VarMap
  | [], map => pure map
  | supertype :: rest, map => do
    match ← lift (atlas.tables.typeData supertype.id) with
    | .parameterized record => do
      let map ← lift (atlas.remap supertype.id record map)
      let map := map.mergeMissing (← nested record.rawType.id)
      let map ← atlas.mergeOwners nested stack atlas.config.ownerLimit record.ownerType map
      mergeSupertypes atlas nested stack rest map
    | .rawClass _ => do
      let map := map.mergeMissing (← nested supertype.id)
      mergeSupertypes atlas nested stack rest map
    | .typeVariable _ => mergeSupertypes atlas nested stack rest map
    | .wildcard _ => mergeSupertypes atlas nested stack rest map

/-- The map of a type from the maps of others. -/
def computeMap (atlas : Atlas) (nested : Nat → Remembering MapMemory VarMap)
    (stack : List Nat) (id : Nat) : Remembering MapMemory VarMap := do
  match ← lift (atlas.tables.typeData id) with
  | .wildcard _ => return .empty
  | .typeVariable _ => return VarMap.empty.insert id (.plain id)
  | .parameterized record => do
    let map ← lift (atlas.bindPositional id record .empty)
    let map := map.mergeMissing (← nested record.rawType.id)
    let map ← atlas.mergeOwners nested stack atlas.config.ownerLimit record.ownerType map
    lift (atlas.resolveChains map)
  | .rawClass record => do
    let map ← atlas.mergeSupertypes nested stack record.supertypes .empty
    lift (atlas.resolveChains map)

/-- The map of a type while the types of `stack` are being computed.  `levels` is more than the
number of types that are not on the stack. -/
def mapWithin (atlas : Atlas) : Nat → List Nat → Nat → Remembering MapMemory VarMap
  | levels, stack, id => do
    match (← get)[id]? with
    | some map => return map
    | none =>
      if stack.contains id then throw (.inheritanceCycle id)
      else
        match levels with
        | 0 => throw (.endless id)
        | levels + 1 => do
          let map ← atlas.computeMap (mapWithin atlas levels (id :: stack)) (id :: stack) id
          modify fun memory => memory.insert id map
          return map

/-- The full map of a type, with the variables that stand for themselves. -/
def exhaustive (atlas : Atlas) (id : Nat) : Remembering MapMemory VarMap :=
  atlas.mapWithin (atlas.tables.typeCount + 2) [] id

/-- The map of a type, without the variables that stand for themselves. -/
def typeVariableMap (atlas : Atlas) (id : Nat) : Work VarMap := do
  let map ← Work.onMaps (atlas.exhaustive id)
  return map.stripSelf

end Atlas

end ClassAtlas
