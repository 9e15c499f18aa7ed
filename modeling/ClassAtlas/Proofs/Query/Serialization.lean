import ClassAtlas.Proofs.Query.Spellings

/-!
# Serialization of queries

A query is written as an object that names its command and then says each argument of that command,
the settings too where they have their default (`DocQuery.toJson_asks`).  So every query is read
back from what it is written as, also once the keys of all objects in it are sorted, and an object
that is accepted leads to one that says the same in full (`DocQuery.serialization`).

An option of `null` is the same as none: the member can be taken out, and whatever the reader says
of the object stays what it was.
-/

set_option autoImplicit false

namespace ClassAtlas

open Json (member?)
open Shape (occurrences)

/-! ## Written forms -/

theorem SearchParams.toJson_spelled (params : SearchParams) : Spelled params.toJson params := by
  have apart : (["terms", "inclusive", "exact", "case_sensitive"] : List String).Nodup := by decide
  have truth (setting : Bool) : Shape.BoolSpelled (.bool setting) setting := rfl
  have terms := Shape.listSpelled_ofList (fun term => TermSpelled.pair term.1 term.2) params.terms
  have sensitive := Shape.optionSpelled_ofOption (by simp) truth params.caseSensitive
  rw [toJson]
  exact .record .object ⟨.of_mem apart (by simp [Json.texts]) terms,
    .of_mem apart (by simp) (truth params.inclusive), .of_mem apart (by simp) (truth params.exact),
    .of_mem apart (by simp) sensitive⟩

namespace QueryExpr

theorem listToJson_eq_map (parts : List QueryExpr) : listToJson parts = parts.map toJson := by
  induction parts with
  | nil => rfl
  | cons part rest ih => rw [listToJson, ih, List.map_cons]

/-- Parts that are written as spellings of themselves make a list that is. -/
theorem listToJson_spelled {parts : List QueryExpr}
    (is : ∀ part ∈ parts, Spelled part.toJson part) :
    List.Forall₂ Spelled (listToJson parts) parts := by
  rw [listToJson_eq_map]
  exact List.forall₂_map_left_iff.2 (List.forall₂_same.2 is)

/-- **Expressions are written as spellings of themselves.**  By induction on the expression. -/
theorem toJson_spelled (expr : QueryExpr) : Spelled expr.toJson expr := by
  induction expr with
  | and parts ih =>
    rw [toJson]
    exact .and (listToJson_spelled ih)
  | or parts ih =>
    rw [toJson]
    exact .or (listToJson_spelled ih)
  | not part ih =>
    rw [toJson]
    exact .not ih
  | term key value =>
    have apart : (["key", "value"] : List String).Nodup := by decide
    rw [toJson]
    exact .term .object (.of_mem apart (by simp) rfl) (.of_mem apart (by simp) rfl)

end QueryExpr

namespace DocQuery

/-- The command that a query is asked with. -/
def command : DocQuery → Command
  | .search _ => .search
  | .searchExpr _ _ _ => .searchExpr
  | .describe _ => .describe
  | .fields _ _ => .fields
  | .methods _ _ => .methods
  | .constructors _ => .constructors
  | .related _ => .related
  | .relations _ _ => .relations
  | .events => .events
  | .bindings => .bindings
  | .stats => .stats

theorem ArgumentsSaid.command_eq {members : List (String × Json)} {command : Command}
    {query : DocQuery} (said : ArgumentsSaid members command query) : command = query.command := by
  cases said <;> rfl

/-- The command is no argument of any command, and no argument is named twice. -/
theorem Command.arguments_nodup (command : Command) :
    ("command" :: command.arguments).Nodup := by
  cases command <;> decide

/-- A query is written with its command and all arguments of it. -/
theorem toJson_said (query : DocQuery) :
    ∃ arguments, query.toJson = .object (("command", .text query.command.wireName) :: arguments) ∧
      arguments.map Prod.fst = query.command.arguments ∧
      ArgumentsSaid (("command", .text query.command.wireName) :: arguments) query.command
        query := by
  have apart := query.command.arguments_nodup
  cases query with
  | search params =>
    exact ⟨_, rfl, rfl, .search (.of_mem apart (by simp) params.toJson_spelled)⟩
  | searchExpr expr inclusive exact =>
    exact ⟨_, rfl, rfl, .searchExpr (.of_mem apart (by simp) expr.toJson_spelled)
      (.of_mem apart (by simp) rfl) (.of_mem apart (by simp) rfl)⟩
  | describe target => exact ⟨_, rfl, rfl, .describe (.of_mem apart (by simp) rfl)⟩
  | fields target shallow =>
    exact ⟨_, rfl, rfl, .fields (.of_mem apart (by simp) rfl) (.of_mem apart (by simp) rfl)⟩
  | methods target shallow =>
    exact ⟨_, rfl, rfl, .methods (.of_mem apart (by simp) rfl) (.of_mem apart (by simp) rfl)⟩
  | constructors target => exact ⟨_, rfl, rfl, .constructors (.of_mem apart (by simp) rfl)⟩
  | related target => exact ⟨_, rfl, rfl, .related (.of_mem apart (by simp) rfl)⟩
  | relations target kind =>
    have spelled : Shape.OptionSpelled KindSpelled
        (.ofOption (fun kind : RelationKind => .text kind.wireName) kind) kind :=
      Shape.optionSpelled_ofOption (by simp) .name kind
    exact ⟨_, rfl, rfl, .relations (.of_mem apart (by simp) rfl) (.of_mem apart (by simp) spelled)⟩
  | events => exact ⟨[], rfl, rfl, .events⟩
  | bindings => exact ⟨[], rfl, rfl, .bindings⟩
  | stats => exact ⟨[], rfl, rfl, .stats⟩

/-- **Queries are written as objects that ask them.** -/
theorem toJson_asks (query : DocQuery) :
    ∃ arguments, query.toJson = .object (("command", .text query.command.wireName) :: arguments) ∧
      arguments.map Prod.fst = query.command.arguments ∧
      Asks (("command", .text query.command.wireName) :: arguments) query := by
  obtain ⟨arguments, written, named, said⟩ := query.toJson_said
  have apart :
      ((("command", Json.text query.command.wireName) :: arguments).map Prod.fst).Nodup := by
    rw [List.map_cons, named]
    exact query.command.arguments_nodup
  exact ⟨arguments, written, named, .command (.of_mem apart List.mem_cons_self rfl) said⟩

theorem ofJson_toJson (query : DocQuery) : ofJson query.toJson = .ok query := by
  obtain ⟨arguments, written, -, asks⟩ := query.toJson_asks
  rw [written]
  exact ofJson_eq_ok.2 asks

/-! ## Options -/

section

variable {members : List (String × Json)}

theorem ofArguments_filter_null (command : Command) (once : occurrences "kind" members ≤ 1)
    (null : member? members "kind" = some .null) :
    ofArguments command (members.filter fun member => member.1 ≠ "kind") =
      ofArguments command members := by
  cases command with
  | relations =>
    rw [ofArguments, ofArguments, Shape.fieldOr_filter_null readKind once null]
    simp (disch := decide) only [readTarget, Shape.field_filter_ne]
  | search | searchExpr | describe | fields | methods | constructors | related | events | bindings
  | stats =>
    simp (disch := decide) only [ofArguments, readTarget, Shape.fieldOr, Shape.field_filter_ne]

/-- A kind of `null` can be left out of a query. -/
theorem ofJson_filter_null (once : occurrences "kind" members ≤ 1)
    (null : member? members "kind" = some .null) :
    ofJson (.object (members.filter fun member => member.1 ≠ "kind")) =
      ofJson (.object members) := by
  rw [ofJson, ofJson]
  simp (disch := decide) only [ofArguments_filter, ofArguments_filter_null _ once null,
    Shape.field_filter_ne]

/-- A case setting of `null` can be left out of flat parameters. -/
theorem searchParams_filter_null (once : occurrences "case_sensitive" members ≤ 1)
    (null : member? members "case_sensitive" = some .null) :
    Shape.searchParams (.object (members.filter fun member => member.1 ≠ "case_sensitive")) =
      Shape.searchParams (.object members) := by
  have sensitive := Shape.fieldOr_filter_null Shape.boolean once null
  simp only [Shape.searchParams, Shape.members, Outcome.ok_bind, sensitive]
  simp (disch := decide) only [Shape.fieldOr, Shape.field_filter_ne]

end

/-! ## There and back -/

/-- **Queries survive serialization.**  A query is read back from what it is written as, in written
order and in canonical form.  The objects that are accepted are exactly those that ask a query; the
canonical form of one is accepted as the same query, and so is what that query is written as, which
has the same command and says every argument of it.  Options of `null` count as left out. -/
theorem serialization :
    (∀ query : DocQuery,
      ofJson query.toJson = .ok query ∧ ofJson query.toJson.canonical = .ok query) ∧
    (∀ members query, ofJson (.object members) = .ok query ↔ Asks members query) ∧
    (∀ members query, ofJson (.object members) = .ok query →
      ofJson (Json.object members).canonical = .ok query ∧
      ∃ command arguments,
        Shape.Said members "command" CommandSpelled none command ∧
        query.toJson = .object (("command", .text command.wireName) :: arguments) ∧
        arguments.map Prod.fst = command.arguments ∧
        ofJson (.object (("command", .text command.wireName) :: arguments)) = .ok query) ∧
    (∀ members, occurrences "kind" members ≤ 1 → member? members "kind" = some .null →
      ofJson (.object (members.filter fun member => member.1 ≠ "kind")) =
        ofJson (.object members)) ∧
    (∀ members, occurrences "case_sensitive" members ≤ 1 →
      member? members "case_sensitive" = some .null →
      Shape.searchParams (.object (members.filter fun member => member.1 ≠ "case_sensitive")) =
        Shape.searchParams (.object members)) := by
  refine ⟨fun query => ⟨query.ofJson_toJson, ?_⟩, fun _ _ => ofJson_eq_ok, ?_,
    fun _ => ofJson_filter_null, fun _ => searchParams_filter_null⟩
  · obtain ⟨arguments, written, -, asks⟩ := query.toJson_asks
    rw [written]
    exact ofJson_canonical (ofJson_eq_ok.2 asks)
  · intro members query read
    obtain ⟨named, said⟩ := ofJson_eq_ok.1 read
    obtain rfl := said.command_eq
    obtain ⟨arguments, written, inFull, asks⟩ := query.toJson_asks
    exact ⟨ofJson_canonical read, query.command, arguments, named, written, inFull,
      ofJson_eq_ok.2 asks⟩

/-- A kind and a case setting of `null`, each said last. -/
theorem serialization_nulls :
    let relations : List (String × Json) :=
      [("target", .text "List"), ("command", .text "relations"), ("kind", .null)]
    let params : List (String × Json) := [("terms", .array []), ("case_sensitive", .null)]
    (ofJson (.object relations) = .ok (.relations "List" none) ∧
      ofJson (Json.object relations).canonical = .ok (.relations "List" none)) ∧
    (occurrences "kind" relations ≤ 1 ∧ member? relations "kind" = some .null ∧
      ofJson (.object [("target", .text "List"), ("command", .text "relations")]) =
        ofJson (.object relations)) ∧
    occurrences "case_sensitive" params ≤ 1 ∧ member? params "case_sensitive" = some .null ∧
      Shape.searchParams (.object [("terms", .array [])]) =
        Shape.searchParams (.object params) := by
  intro relations params
  have kindOnce : occurrences "kind" relations ≤ 1 := by decide
  have caseOnce : occurrences "case_sensitive" params ≤ 1 := by decide
  have read : ofJson (.object relations) = .ok (.relations "List" none) := rfl
  exact ⟨⟨read, (serialization.2.2.1 relations _ read).1⟩,
    ⟨kindOnce, rfl, serialization.2.2.2.1 relations kindOnce rfl⟩,
    caseOnce, rfl, serialization.2.2.2.2 params caseOnce rfl⟩

end DocQuery

end ClassAtlas
