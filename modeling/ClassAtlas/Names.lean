import ClassAtlas.Work

/-!
# Names and packages

Entries of the name table refer to other entries, as aliases or as parts to be joined; entries of
the package table refer to their parents.  References are followed to a depth of 256 below the entry
that is asked for, and a deeper chain is taken for a cycle.

An answer is remembered for the entry that was asked for, not for the entries met on the way.  An
entry that is remembered is not followed further, so a chain that is too deep at first can be
answered once some entry in its middle has been asked for.
-/

set_option autoImplicit false

namespace ClassAtlas

/-- How deep references between names or packages may be nested. -/
def chainLimit : Nat := 256

namespace Tables

/-- The texts of several entries in a row. -/
def joinParts (resolve : Nat → Except Fault String) : List Nat → Except Fault String
  | [] => .ok ""
  | part :: rest => do
    let first ← resolve part
    let others ← joinParts resolve rest
    return first ++ others

/-- The text of a name, references followed `levels - 1` deep. -/
def resolveName (tables : Tables) (known : Std.HashMap Nat String) :
    Nat → Nat → Except Fault String
  | levels, id =>
    match tables.names[id]? with
    | none => .error (.invalidId .names id tables.names.size)
    | some entry =>
      match known[id]? with
      | some text => .ok text
      | none =>
        match levels with
        | 0 => .error (.decode (.cyclicName id))
        | levels + 1 =>
          match entry with
          | .text value => .ok value
          | .alias other => resolveName tables known levels other
          | .parts others => joinParts (resolveName tables known levels) others

/-- The dotted text of a package, parents followed `levels - 1` deep. -/
def resolvePackage (tables : Tables) (known : Std.HashMap Nat String) :
    Nat → Nat → Except Fault String
  | levels, id =>
    match tables.packages[id]? with
    | none => .error (.invalidId .packages id tables.packages.size)
    | some entry =>
      match known[id]? with
      | some text => .ok text
      | none =>
        match levels with
        | 0 => .error (.decode (.cyclicPackage id))
        | levels + 1 =>
          match entry.parent with
          | none => .ok entry.segment
          | some parent => do
            let outer ← resolvePackage tables known levels parent
            return s!"{outer}.{entry.segment}"

/-- The text of a name. -/
def name (tables : Tables) (id : Nat) : Work String := fun memory =>
  match tables.resolveName memory.names (chainLimit + 1) id with
  | .ok text => (.ok text, { memory with names := memory.names.insert id text })
  | .error fault => (.error fault, memory)

/-- The text of a name that may be absent. -/
def optionalName (tables : Tables) : Option Nat → Work (Option String)
  | none => pure none
  | some id => do return some (← tables.name id)

/-- The dotted text of a package. -/
def packageName (tables : Tables) (id : Nat) : Work String := fun memory =>
  match tables.resolvePackage memory.packages (chainLimit + 1) id with
  | .ok text => (.ok text, { memory with packages := memory.packages.insert id text })
  | .error fault => (.error fault, memory)

end Tables

end ClassAtlas
