import ClassAtlas.Proofs.Graph.WrittenForm
import ClassAtlas.Proofs.Json.Accepted
import ClassAtlas.Proofs.Search.Expressions
import ClassAtlas.Query.Doc

/-!
# Spellings of queries

Which objects ask which query.  The member `command` names the query, and each argument is said by
the member under its name; settings may be left out, and an optional one may also be `null`.  Flat
parameters are a record of their own, and a structured expression is an object with one member for
each of its nodes.

The readers accept exactly these spellings (`DocQuery.ofJson_eq_ok`), and the canonical form of an
accepted object asks the same query (`DocQuery.ofJson_canonical`).
-/

set_option autoImplicit false

namespace ClassAtlas

open Shape (Accepts BoolSpelled Canonically Canonized Laid ListSpelled OptionSpelled TextSpelled)

/-! ## Flat parameters -/

namespace SearchParams

/-- A term of a flat search: its key and its value in a list. -/
inductive TermSpelled : Json → String × String → Prop
  | pair (key value : String) : TermSpelled (.array [.text key, .text value]) (key, value)

/-- What the members of a record say of flat parameters. -/
structure Said (members : List (String × Json)) (params : SearchParams) : Prop where
  terms : Shape.Said members "terms" (ListSpelled TermSpelled) none params.terms
  inclusive : Shape.Said members "inclusive" BoolSpelled (some true) params.inclusive
  exact : Shape.Said members "exact" BoolSpelled (some false) params.exact
  caseSensitive : Shape.Said members "case_sensitive" (OptionSpelled BoolSpelled) (some none)
    params.caseSensitive

/-- The spellings of flat parameters. -/
inductive Spelled : Json → SearchParams → Prop
  | record {value : Json} {members : List (String × Json)} {params : SearchParams}
      (laid : Laid ["terms", "inclusive", "exact", "case_sensitive"] value members)
      (said : Said members params) : Spelled value params

theorem termPair_accepts : Accepts Shape.termPair TermSpelled := by
  intro value result
  constructor
  · intro read
    unfold Shape.termPair at read
    split at read
    · obtain ⟨key, keyRead, read⟩ := Outcome.bind_eq_ok.1 read
      obtain ⟨text, textRead, read⟩ := Outcome.bind_eq_ok.1 read
      cases read
      obtain rfl := (Shape.string_accepts _ _).1 keyRead
      obtain rfl := (Shape.string_accepts _ _).1 textRead
      exact .pair key text
    · cases read
  · rintro ⟨key, text⟩
    rfl

theorem termSpelled_canonically : Canonically TermSpelled := by
  rintro value result ⟨key, text⟩
  exact .pair key text

theorem searchParams_accepts : Accepts Shape.searchParams Spelled := by
  intro value params
  have terms := Shape.list_accepts termPair_accepts
  have caseSensitive := Shape.optional_accepts Shape.boolean_accepts
  rw [Shape.searchParams]
  simp only [Outcome.bind_eq_ok, Shape.members_eq_ok, Shape.fieldOr_eq_ok Shape.boolean_accepts,
    Shape.fieldOr_eq_ok caseSensitive]
  constructor
  · rintro ⟨members, laid, found, read, inclusive, inclusiveSaid, exact, exactSaid, sensitive,
      sensitiveSaid, listed, given, same⟩
    cases same
    exact .record laid
      ⟨(Shape.required_eq_ok terms).1 ⟨found, read, given⟩, inclusiveSaid, exactSaid, sensitiveSaid⟩
  · rintro ⟨laid, said⟩
    obtain ⟨found, read, given⟩ := (Shape.required_eq_ok terms).2 said.terms
    exact ⟨_, laid, found, read, _, said.inclusive, _, said.exact, _, said.caseSensitive, _, given,
      rfl⟩

theorem spelled_canonically : Canonically Spelled := by
  rintro value params ⟨laid, said⟩
  obtain ⟨later, laid', same⟩ := laid.canonical
  refine .record laid' ⟨?_, ?_, ?_, ?_⟩
  · exact said.terms.canonized same (Shape.listSpelled_canonically termSpelled_canonically)
  · exact said.inclusive.canonized same Shape.boolSpelled_canonically
  · exact said.exact.canonized same Shape.boolSpelled_canonically
  · exact said.caseSensitive.canonized same
      (Shape.optionSpelled_canonically Shape.boolSpelled_canonically)

end SearchParams

/-! ## Structured expressions -/

namespace QueryExpr

/-- The spellings of an expression: an object with one member, whose key says what node it is. -/
inductive Spelled : Json → QueryExpr → Prop
  | and {items : List Json} {parts : List QueryExpr} (each : List.Forall₂ Spelled items parts) :
      Spelled (.object [("and", .array items)]) (.and parts)
  | or {items : List Json} {parts : List QueryExpr} (each : List.Forall₂ Spelled items parts) :
      Spelled (.object [("or", .array items)]) (.or parts)
  | not {inner : Json} {part : QueryExpr} (is : Spelled inner part) :
      Spelled (.object [("not", inner)]) (.not part)
  | term {inner : Json} {members : List (String × Json)} {key value : String}
      (laid : Laid ["key", "value"] inner members)
      (keySaid : Shape.Said members "key" TextSpelled none key)
      (valueSaid : Shape.Said members "value" TextSpelled none value) :
      Spelled (.object [("term", inner)]) (.term key value)

theorem readTerm_eq_ok {value : Json} {expr : QueryExpr} :
    readTerm value = .ok expr ↔
      ∃ members key text, Laid ["key", "value"] value members ∧
        Shape.Said members "key" TextSpelled none key ∧
        Shape.Said members "value" TextSpelled none text ∧ expr = .term key text := by
  have said {members : List (String × Json)} {name text : String} :
      (∃ found, Shape.field members name Shape.string = .ok found ∧
        Shape.required name found = .ok text) ↔ Shape.Said members name TextSpelled none text :=
    Shape.required_eq_ok Shape.string_accepts
  rw [readTerm]
  simp only [Outcome.bind_eq_ok, Shape.members_eq_ok]
  constructor
  · rintro ⟨members, laid, keyFound, keyRead, textFound, textRead, key, keyGiven, text, textGiven,
      same⟩
    cases same
    exact ⟨members, key, text, laid, said.1 ⟨keyFound, keyRead, keyGiven⟩,
      said.1 ⟨textFound, textRead, textGiven⟩, rfl⟩
  · rintro ⟨members, key, text, laid, keySaid, textSaid, rfl⟩
    obtain ⟨keyFound, keyRead, keyGiven⟩ := said.2 keySaid
    obtain ⟨textFound, textRead, textGiven⟩ := said.2 textSaid
    exact ⟨members, laid, keyFound, keyRead, textFound, textRead, key, keyGiven, text, textGiven,
      rfl⟩

/-- One node of an expression that is read. -/
inductive ReadNode : Json → QueryExpr → Prop
  | and {items : List Json} {parts : List QueryExpr} (read : listOfJson items = .ok parts) :
      ReadNode (.object [("and", .array items)]) (.and parts)
  | or {items : List Json} {parts : List QueryExpr} (read : listOfJson items = .ok parts) :
      ReadNode (.object [("or", .array items)]) (.or parts)
  | not {inner : Json} {part : QueryExpr} (read : ofJson inner = .ok part) :
      ReadNode (.object [("not", inner)]) (.not part)
  | term {inner : Json} {key value : String} (read : readTerm inner = .ok (.term key value)) :
      ReadNode (.object [("term", inner)]) (.term key value)

theorem ofJson_eq_ok_iff_readNode {value : Json} {expr : QueryExpr} :
    ofJson value = .ok expr ↔ ReadNode value expr := by
  constructor
  · intro run
    fun_cases ofJson value with
    | case1 items =>
      rw [ofJson, Outcome.map_eq_ok] at run
      obtain ⟨parts, read, rfl⟩ := run
      exact .and read
    | case2 items =>
      rw [ofJson, Outcome.map_eq_ok] at run
      obtain ⟨parts, read, rfl⟩ := run
      exact .or read
    | case3 inner =>
      rw [ofJson, Outcome.map_eq_ok] at run
      obtain ⟨part, read, rfl⟩ := run
      exact .not read
    | case4 inner =>
      rw [ofJson] at run
      obtain ⟨members, key, text, laid, keySaid, textSaid, rfl⟩ := readTerm_eq_ok.1 run
      exact .term run
    | case5 | case6 | case7 | case8 =>
      rw [ofJson] at run
      · cases run
      all_goals assumption
  · rintro (⟨read⟩ | ⟨read⟩ | ⟨read⟩ | ⟨read⟩)
    · rw [ofJson, read]
      rfl
    · rw [ofJson, read]
      rfl
    · rw [ofJson, read]
      rfl
    · rwa [ofJson]

theorem listOfJson_eq_items (items : List Json) : listOfJson items = Shape.items ofJson items := by
  induction items with
  | nil => rfl
  | cons item rest ih => rw [listOfJson, Shape.items, ih]

/-- Parts of an expression that are read from their spellings make a list that is. -/
theorem listOfJson_accepts {items : List Json} {parts : List QueryExpr}
    (accepts : ∀ part ∈ parts, ∀ item, ofJson item = .ok part ↔ Spelled item part) :
    listOfJson items = .ok parts ↔ List.Forall₂ Spelled items parts := by
  rw [listOfJson_eq_items, Shape.items_eq_ok fun _ _ => Iff.rfl]
  induction parts generalizing items with
  | nil => rw [List.forall₂_nil_right_iff, List.forall₂_nil_right_iff]
  | cons part rest ih =>
    obtain ⟨here, there⟩ := List.forall_mem_cons.1 accepts
    rw [List.forall₂_cons_right_iff, List.forall₂_cons_right_iff]
    simp only [here, ih there]

/-- **Expressions are read from their spellings.**  By induction on the expression. -/
theorem ofJson_accepts : Accepts ofJson Spelled := by
  intro value expr
  induction expr generalizing value with
  | and parts ih =>
    have inside {items} := @listOfJson_accepts items parts ih
    rw [ofJson_eq_ok_iff_readNode]
    exact ⟨fun | .and read => .and (inside.1 read), fun | .and each => .and (inside.2 each)⟩
  | or parts ih =>
    have inside {items} := @listOfJson_accepts items parts ih
    rw [ofJson_eq_ok_iff_readNode]
    exact ⟨fun | .or read => .or (inside.1 read), fun | .or each => .or (inside.2 each)⟩
  | not part ih =>
    rw [ofJson_eq_ok_iff_readNode]
    exact ⟨fun | .not read => .not ((ih _).1 read), fun | .not is => .not ((ih _).2 is)⟩
  | term key text =>
    rw [ofJson_eq_ok_iff_readNode]
    constructor
    · intro node
      cases node with
      | term read =>
        obtain ⟨members, _, _, laid, keySaid, textSaid, same⟩ := readTerm_eq_ok.1 read
        cases same
        exact .term laid keySaid textSaid
    · intro spelled
      cases spelled with
      | term laid keySaid textSaid =>
        exact .term (readTerm_eq_ok.2 ⟨_, _, _, laid, keySaid, textSaid, rfl⟩)

/-- The canonical form of a spelling spells the same expression. -/
theorem spelled_canonically : Canonically Spelled := by
  intro value expr spelled
  induction expr generalizing value with
  | and parts ih =>
    cases spelled with
    | and each =>
      rw [Json.canonical_singleton, Json.canonical_array]
      exact .and (Shape.forall₂_canonical (fun part listed _ => ih part listed _) each)
  | or parts ih =>
    cases spelled with
    | or each =>
      rw [Json.canonical_singleton, Json.canonical_array]
      exact .or (Shape.forall₂_canonical (fun part listed _ => ih part listed _) each)
  | not part ih =>
    cases spelled with
    | not is =>
      rw [Json.canonical_singleton]
      exact .not (ih _ is)
  | term key text =>
    cases spelled with
    | term laid keySaid textSaid =>
      obtain ⟨later, laid', same⟩ := laid.canonical
      rw [Json.canonical_singleton]
      exact .term laid' (keySaid.canonized same Shape.textSpelled_canonically)
        (textSaid.canonized same Shape.textSpelled_canonically)

end QueryExpr

/-! ## Queries -/

namespace DocQuery

/-- A kind of relation by its name, alone or as the key of an object without content. -/
inductive KindSpelled : Json → RelationKind → Prop
  | name (kind : RelationKind) : KindSpelled (.text kind.wireName) kind
  | null (kind : RelationKind) : KindSpelled (.object [(kind.wireName, .null)]) kind
  | empty (kind : RelationKind) : KindSpelled (.object [(kind.wireName, .object [])]) kind

/-- What members say of a target. -/
abbrev TargetSaid (members : List (String × Json)) (target : String) : Prop :=
  Shape.Said members "target" TextSpelled none target

/-- What members say of a setting. -/
abbrev SettingSaid (members : List (String × Json)) (key : String) (default setting : Bool) :
    Prop :=
  Shape.Said members key BoolSpelled (some default) setting

/-- What members say of the arguments of a command. -/
inductive ArgumentsSaid (members : List (String × Json)) : Command → DocQuery → Prop
  | search {params : SearchParams}
      (said : Shape.Said members "params" SearchParams.Spelled none params) :
      ArgumentsSaid members .search (.search params)
  | searchExpr {expr : QueryExpr} {inclusive exact : Bool}
      (said : Shape.Said members "expr" QueryExpr.Spelled none expr)
      (inclusiveSaid : SettingSaid members "inclusive" true inclusive)
      (exactSaid : SettingSaid members "exact" false exact) :
      ArgumentsSaid members .searchExpr (.searchExpr expr inclusive exact)
  | describe {target : String} (said : TargetSaid members target) :
      ArgumentsSaid members .describe (.describe target)
  | fields {target : String} {shallow : Bool} (said : TargetSaid members target)
      (shallowSaid : SettingSaid members "shallow" false shallow) :
      ArgumentsSaid members .fields (.fields target shallow)
  | methods {target : String} {shallow : Bool} (said : TargetSaid members target)
      (shallowSaid : SettingSaid members "shallow" false shallow) :
      ArgumentsSaid members .methods (.methods target shallow)
  | constructors {target : String} (said : TargetSaid members target) :
      ArgumentsSaid members .constructors (.constructors target)
  | related {target : String} (said : TargetSaid members target) :
      ArgumentsSaid members .related (.related target)
  | relations {target : String} {kind : Option RelationKind} (said : TargetSaid members target)
      (kindSaid : Shape.Said members "kind" (OptionSpelled KindSpelled) (some none) kind) :
      ArgumentsSaid members .relations (.relations target kind)
  | events : ArgumentsSaid members .events .events
  | bindings : ArgumentsSaid members .bindings .bindings
  | stats : ArgumentsSaid members .stats .stats

/-- The name of a command. -/
def CommandSpelled (value : Json) (command : Command) : Prop :=
  value = .text command.wireName

/-- Members that ask a query: they name its command and say its arguments. -/
inductive Asks (members : List (String × Json)) : DocQuery → Prop
  | command {command : Command} {query : DocQuery}
      (named : Shape.Said members "command" CommandSpelled none command)
      (said : ArgumentsSaid members command query) : Asks members query

/-! ### Reading -/

theorem readKind_accepts : Accepts readKind KindSpelled := by
  have found {name : String} {kind : RelationKind} :
      readKind.find name = .ok kind ↔ name = kind.wireName := by
    rw [readKind.find]
    constructor
    · intro run
      split at run
      · next other named =>
        cases run
        exact RelationKind.ofWireName?_eq_some_iff.1 named
      · cases run
    · rintro rfl
      rw [RelationKind.ofWireName?_wireName]
  intro value kind
  constructor
  · intro run
    unfold readKind at run
    split at run
    · exact found.1 run ▸ .name kind
    · exact found.1 run ▸ .null kind
    · exact found.1 run ▸ .empty kind
    · cases run
  · rintro (_ | _ | _) <;> exact found.2 rfl

theorem readCommand_accepts : Accepts readCommand CommandSpelled := by
  have named : ∀ command : Command,
      (Command.all.find? fun other => other.wireName == command.wireName) = some command := by
    intro command
    cases command <;> rfl
  intro value command
  rw [CommandSpelled]
  constructor
  · intro run
    unfold readCommand at run
    split at run
    · split at run
      · next found =>
        cases run
        exact congrArg Json.text (eq_of_beq (List.find?_some found :)).symm
      · cases run
    · cases run
  · rintro rfl
    simp only [readCommand, named]

theorem readTarget_accepts {members : List (String × Json)} {target : String} :
    readTarget members = .ok target ↔ TargetSaid members target := by
  rw [readTarget, Outcome.bind_eq_ok]
  exact Shape.required_eq_ok Shape.string_accepts

section

variable {members : List (String × Json)}

theorem setting_eq_ok {key : String} {default setting : Bool} :
    Shape.fieldOr members key Shape.boolean default = .ok setting ↔
      SettingSaid members key default setting :=
  Shape.fieldOr_eq_ok Shape.boolean_accepts

theorem kind_eq_ok {kind : Option RelationKind} :
    Shape.fieldOr members "kind" (Shape.optional readKind) none = .ok kind ↔
      Shape.Said members "kind" (OptionSpelled KindSpelled) (some none) kind :=
  Shape.fieldOr_eq_ok (Shape.optional_accepts readKind_accepts)

/-- **The arguments of a command are read from what the members say of them.** -/
theorem ofArguments_eq_ok {command : Command} {query : DocQuery} :
    ofArguments command members = .ok query ↔ ArgumentsSaid members command query := by
  have params := SearchParams.searchParams_accepts
  have expr := QueryExpr.ofJson_accepts
  constructor
  · intro run
    cases command with
    | search =>
      obtain ⟨found, read, run⟩ := Outcome.bind_eq_ok.1 run
      obtain ⟨given, present, run⟩ := Outcome.bind_eq_ok.1 run
      cases run
      exact .search ((Shape.required_eq_ok params).1 ⟨found, read, present⟩)
    | searchExpr =>
      obtain ⟨found, read, run⟩ := Outcome.bind_eq_ok.1 run
      obtain ⟨inclusive, inclusiveRead, run⟩ := Outcome.bind_eq_ok.1 run
      obtain ⟨exact, exactRead, run⟩ := Outcome.bind_eq_ok.1 run
      obtain ⟨given, present, run⟩ := Outcome.bind_eq_ok.1 run
      cases run
      exact .searchExpr ((Shape.required_eq_ok expr).1 ⟨found, read, present⟩)
        (setting_eq_ok.1 inclusiveRead) (setting_eq_ok.1 exactRead)
    | describe =>
      obtain ⟨target, read, rfl⟩ := Outcome.map_eq_ok.1 run
      exact .describe (readTarget_accepts.1 read)
    | constructors =>
      obtain ⟨target, read, rfl⟩ := Outcome.map_eq_ok.1 run
      exact .constructors (readTarget_accepts.1 read)
    | related =>
      obtain ⟨target, read, rfl⟩ := Outcome.map_eq_ok.1 run
      exact .related (readTarget_accepts.1 read)
    | fields =>
      obtain ⟨target, read, run⟩ := Outcome.bind_eq_ok.1 run
      obtain ⟨shallow, shallowRead, run⟩ := Outcome.bind_eq_ok.1 run
      cases run
      exact .fields (readTarget_accepts.1 read) (setting_eq_ok.1 shallowRead)
    | methods =>
      obtain ⟨target, read, run⟩ := Outcome.bind_eq_ok.1 run
      obtain ⟨shallow, shallowRead, run⟩ := Outcome.bind_eq_ok.1 run
      cases run
      exact .methods (readTarget_accepts.1 read) (setting_eq_ok.1 shallowRead)
    | relations =>
      obtain ⟨target, read, run⟩ := Outcome.bind_eq_ok.1 run
      obtain ⟨kind, kindRead, run⟩ := Outcome.bind_eq_ok.1 run
      cases run
      exact .relations (readTarget_accepts.1 read) (kind_eq_ok.1 kindRead)
    | events =>
      cases run
      exact .events
    | bindings =>
      cases run
      exact .bindings
    | stats =>
      cases run
      exact .stats
  · intro said
    cases said with
    | search said =>
      obtain ⟨found, read, present⟩ := (Shape.required_eq_ok params).2 said
      exact Outcome.bind_eq_ok.2 ⟨found, read, Outcome.bind_eq_ok.2 ⟨_, present, rfl⟩⟩
    | searchExpr said inclusiveSaid exactSaid =>
      obtain ⟨found, read, present⟩ := (Shape.required_eq_ok expr).2 said
      exact Outcome.bind_eq_ok.2 ⟨found, read, Outcome.bind_eq_ok.2 ⟨_,
        setting_eq_ok.2 inclusiveSaid, Outcome.bind_eq_ok.2 ⟨_, setting_eq_ok.2 exactSaid,
          Outcome.bind_eq_ok.2 ⟨_, present, rfl⟩⟩⟩⟩
    | describe said | constructors said | related said =>
      exact Outcome.map_eq_ok.2 ⟨_, readTarget_accepts.2 said, rfl⟩
    | fields said shallowSaid | methods said shallowSaid =>
      exact Outcome.bind_eq_ok.2 ⟨_, readTarget_accepts.2 said,
        Outcome.bind_eq_ok.2 ⟨_, setting_eq_ok.2 shallowSaid, rfl⟩⟩
    | relations said kindSaid =>
      exact Outcome.bind_eq_ok.2 ⟨_, readTarget_accepts.2 said,
        Outcome.bind_eq_ok.2 ⟨_, kind_eq_ok.2 kindSaid, rfl⟩⟩
    | events | bindings | stats => rfl

/-- The member that names the command is no argument. -/
theorem ofArguments_filter (command : Command) :
    ofArguments command (members.filter fun member => member.1 ≠ "command") =
      ofArguments command members := by
  cases command <;>
    simp (disch := decide) only [ofArguments, readTarget, Shape.fieldOr, Shape.field_filter_ne]

/-- **Objects are read as the queries that they ask.** -/
theorem ofJson_eq_ok {query : DocQuery} :
    ofJson (.object members) = .ok query ↔ Asks members query := by
  have named {command : Command} :
      (∃ found, Shape.field members "command" readCommand = .ok found ∧
        Shape.required "command" found = .ok command) ↔
          Shape.Said members "command" CommandSpelled none command :=
    Shape.required_eq_ok readCommand_accepts
  rw [ofJson]
  simp only [Outcome.bind_eq_ok, ofArguments_filter, ofArguments_eq_ok]
  constructor
  · rintro ⟨found, read, command, given, said⟩
    exact .command (named.1 ⟨found, read, given⟩) said
  · rintro ⟨command, said⟩
    obtain ⟨found, read, given⟩ := named.2 command
    exact ⟨found, read, _, given, said⟩

/-! ### Canonical forms -/

theorem kindSpelled_canonically : Canonically KindSpelled := by
  rintro value kind (_ | _ | _)
  · exact .name kind
  · rw [Json.canonical_singleton]
    exact .null kind
  · rw [Json.canonical_singleton]
    exact .empty kind

theorem commandSpelled_canonically : Canonically CommandSpelled := by
  rintro value command rfl
  rfl

variable {later : List (String × Json)} {query : DocQuery}

theorem ArgumentsSaid.canonized {command : Command} (same : Canonized members later)
    (said : ArgumentsSaid members command query) : ArgumentsSaid later command query := by
  have text := Shape.textSpelled_canonically
  have bool := Shape.boolSpelled_canonically
  cases said with
  | search said => exact .search (said.canonized same SearchParams.spelled_canonically)
  | searchExpr said inclusiveSaid exactSaid =>
    exact .searchExpr (said.canonized same QueryExpr.spelled_canonically)
      (inclusiveSaid.canonized same bool) (exactSaid.canonized same bool)
  | describe said => exact .describe (said.canonized same text)
  | fields said shallowSaid =>
    exact .fields (said.canonized same text) (shallowSaid.canonized same bool)
  | methods said shallowSaid =>
    exact .methods (said.canonized same text) (shallowSaid.canonized same bool)
  | constructors said => exact .constructors (said.canonized same text)
  | related said => exact .related (said.canonized same text)
  | relations said kindSaid =>
    exact .relations (said.canonized same text)
      (kindSaid.canonized same (Shape.optionSpelled_canonically kindSpelled_canonically))
  | events => exact .events
  | bindings => exact .bindings
  | stats => exact .stats

/-- Members ask the same in canonical form. -/
theorem Asks.canonized (same : Canonized members later) (asks : Asks members query) :
    Asks later query := by
  obtain ⟨named, said⟩ := asks
  exact .command (named.canonized same commandSpelled_canonically) (said.canonized same)

/-- The canonical form of an accepted object asks the same query. -/
theorem ofJson_canonical (read : ofJson (.object members) = .ok query) :
    ofJson (Json.object members).canonical = .ok query := by
  rw [Json.canonical]
  exact ofJson_eq_ok.2 ((ofJson_eq_ok.1 read).canonized (Shape.canonized_sortMembers members))

end

end DocQuery

end ClassAtlas
