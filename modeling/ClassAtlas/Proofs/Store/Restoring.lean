import ClassAtlas.Proofs.Index.Settings
import ClassAtlas.Proofs.Json.Reading
import ClassAtlas.Proofs.Lookup
import ClassAtlas.Proofs.Store.Prepare

/-!
# Restored indices and the settings

A stored index is stamped with the text of the snapshot, and with nothing of the settings under
which it was built.  A session under other settings restores it all the same.

What it gets is right but for the event groups: the graph, the partitions and the warnings are those
that it would have built, and the event groups are those of the session that saved
(`prepare_after_save`).  So the restored index is the one that the present settings call for exactly
when indexing from scratch succeeds under both settings and gives the same event groups.  That is so
when the settings name the same event bases and have the same limits, wherever the index is kept.
When only the event bases differ the groups can differ, too (`prepare_after_save_loneBase`).
-/

set_option autoImplicit false

namespace ClassAtlas

/-- Two indices that agree but for the names that were looked up when they were built. -/
structure Index.Agrees (left right : Index) : Prop where
  graph : left.graph = right.graph
  partitions : left.partitions = right.partitions
  events : left.events = right.events
  warnings : left.warnings = right.warnings

namespace Config

/-- What indexing a snapshot from scratch gives under some settings. -/
def fromScratch (config : Config) (snapshot : Snapshot) : Except Fault Index :=
  (Atlas.index ⟨.ofSnapshot snapshot, config⟩ .empty).1

/-- Whether an index is the one that the settings call for. -/
def CallsFor (config : Config) (snapshot : Snapshot) (index : Index) : Prop :=
  ∃ built, config.fromScratch snapshot = .ok built ∧ index.Agrees built

/-- Settings that agree in what an index reads of them.  They may differ in where it is kept. -/
structure ReadsLike (first second : Config) : Prop where
  eventBaseClasses : first.eventBaseClasses = second.eventBaseClasses
  hopLimit : first.hopLimit = second.hopLimit
  ownerLimit : first.ownerLimit = second.ownerLimit

variable {first second : Config} {snapshot : Snapshot} {index built : Index}

theorem ReadsLike.fromScratch (like : first.ReadsLike second) :
    first.fromScratch snapshot = second.fromScratch snapshot := by
  have alike : Atlas.Alike ⟨.ofSnapshot snapshot, first⟩ ⟨.ofSnapshot snapshot, second⟩ :=
    ⟨rfl, like.hopLimit, like.ownerLimit⟩
  rw [Config.fromScratch, alike.index like.eventBaseClasses, Config.fromScratch]

theorem callsFor_of_fromScratch (built : first.fromScratch snapshot = .ok index) :
    first.CallsFor snapshot index :=
  ⟨index, built, rfl, rfl, rfl, rfl⟩

/-- Whatever the settings, the same graph, partitions and warnings are called for. -/
theorem CallsFor.findings_eq (called : first.CallsFor snapshot index)
    (again : second.fromScratch snapshot = .ok built) :
    index.graph = built.graph ∧ index.partitions = built.partitions ∧
      index.warnings = built.warnings := by
  obtain ⟨older, run, agrees⟩ := called
  let left : Atlas := ⟨.ofSnapshot snapshot, first⟩
  let right : Atlas := ⟨.ofSnapshot snapshot, second⟩
  have here : left.index .empty = (.ok older, _) := Prod.ext run rfl
  have there : right.index .empty = (.ok built, _) := Prod.ext again rfl
  have same : left.tables = right.tables := rfl
  obtain ⟨graph, partitions, warnings⟩ := Atlas.index_findings_eq same here there
  exact ⟨agrees.graph.trans graph, agrees.partitions.trans partitions,
    agrees.warnings.trans warnings⟩

/-- **Other settings call for the same index exactly when the event groups are the same.** -/
theorem CallsFor.iff_events_eq (called : first.CallsFor snapshot index) :
    second.CallsFor snapshot index ↔
      ∃ older newer, first.fromScratch snapshot = .ok older ∧
        second.fromScratch snapshot = .ok newer ∧ older.events = newer.events := by
  obtain ⟨older, run, agrees⟩ := called
  constructor
  · rintro ⟨newer, again, same⟩
    exact ⟨older, newer, run, again, agrees.events.symm.trans same.events⟩
  · rintro ⟨older', newer, run', again, events⟩
    cases run.symm.trans run'
    obtain ⟨graph, partitions, warnings⟩ :=
      CallsFor.findings_eq ⟨older, run, agrees⟩ again
    exact ⟨newer, again, graph, partitions, agrees.events.trans events, warnings⟩

end Config

/-! ## Through the file -/

section

variable {first second : Config} {text : String} {snapshot : Snapshot} {index : Index}
  (read : Snapshot.ofText? text = some snapshot)

include read

/-- A session that is opened on a file is new. -/
theorem Session.new_of_ofFile? {config : Config} {session : Session}
    (opened : ofFile? config text = some session) :
    session.state = .empty ∧ session.index? = none ∧ session.source = some text ∧
      session.atlas.index session.memory = Atlas.index ⟨.ofSnapshot snapshot, config⟩ .empty := by
  rw [ofFile?, read] at opened
  cases opened
  exact ⟨rfl, rfl, rfl, rfl⟩

namespace Desk

/-- A session that saves has prepared an index, and the file holds this index then. -/
theorem index_of_saves (desk : Desk) (opened : Session.ofFile? first text = some desk.session)
    (honest : ∀ index, desk.stored.bind (StoredFile.usable? text) = some index →
      first.CallsFor snapshot index)
    (saves : desk.prepare.2.save.1 = .ok ()) :
    ∃ index, first.CallsFor snapshot index ∧
      desk.prepare.2.save.2.stored = some (.ofIndex text index) := by
  obtain ⟨empty, -, source, scratch⟩ := Session.new_of_ofFile? read opened
  cases served : desk.stored.bind (StoredFile.usable? text) with
  | some index =>
    obtain ⟨memory, restored⟩ := prepare_restored empty source served
    rw [restored, save_installed source]
    exact ⟨index, honest index served, rfl⟩
  | none =>
    rcases built : desk.session.atlas.index desk.session.memory with ⟨fault | index, memory⟩
    · rw [prepare_failed empty source served built] at saves
      cases saves
    · rw [prepare_built empty source served built, save_installed source]
      exact ⟨index, Config.callsFor_of_fromScratch (congrArg Prod.fst (scratch.symm.trans built)),
        rfl⟩

/-- A session that finds no index saves when its settings call for one. -/
theorem saves_of_fromScratch (desk : Desk) (opened : Session.ofFile? first text = some desk.session)
    (unserved : desk.stored.bind (StoredFile.usable? text) = none)
    (built : first.fromScratch snapshot = .ok index) : desk.prepare.2.save.1 = .ok () := by
  obtain ⟨empty, -, source, scratch⟩ := Session.new_of_ofFile? read opened
  have run : desk.session.atlas.index desk.session.memory = (.ok index, _) :=
    scratch.trans (Prod.ext built rfl)
  rw [prepare_built empty source unserved run, save_installed source]

/-- A session that finds the index of a file restores it. -/
theorem prepare_of_saved (desk : Desk) (opened : Session.ofFile? second text = some desk.session)
    (saved : desk.stored = some (.ofIndex text index)) :
    desk.prepare.2.session.index? = some index := by
  obtain ⟨empty, -, source, -⟩ := Session.new_of_ofFile? read opened
  obtain ⟨memory, restored⟩ :=
    prepare_restored empty source (StoredFile.usable_eq_some_iff.2 saved)
  rw [restored]
  rfl

/-- A session that finds no index builds the one that its settings call for. -/
theorem callsFor_of_unserved (desk : Desk)
    (opened : Session.ofFile? second text = some desk.session)
    (unserved : desk.stored.bind (StoredFile.usable? text) = none)
    (installed : desk.prepare.2.session.index? = some index) :
    second.CallsFor snapshot index := by
  obtain ⟨empty, bare, source, scratch⟩ := Session.new_of_ofFile? read opened
  rcases built : desk.session.atlas.index desk.session.memory with ⟨fault | index, memory⟩
  · rw [prepare_failed empty source unserved built] at installed
    cases bare.symm.trans installed
  · rw [prepare_built empty source unserved built] at installed
    cases installed
    exact Config.callsFor_of_fromScratch (congrArg Prod.fst (scratch.symm.trans built))

end Desk

omit read in
/-- **What a session gets from the index that another one saved.**  Two sessions are opened on the
same text under two settings; the first one prepares and saves, on a file that serves nothing that
its settings do not call for.  Then the second one has an index after its own prepare.  Its graph,
its partitions and its warnings are those that indexing from scratch under the second settings
gives, and all of it is what these settings call for exactly when indexing from scratch under both
gives the same event groups; so it is when both settings have the same event bases and limits.  When
the file cannot serve the second session, what it prepares is what its settings call for. -/
theorem prepare_after_save {writer reader : Session} {stored : Option StoredFile}
    (read : Snapshot.ofText? text = some snapshot)
    (opened : Session.ofFile? first text = some writer)
    (openedAgain : Session.ofFile? second text = some reader)
    (honest : ∀ index, stored.bind (StoredFile.usable? text) = some index →
      first.CallsFor snapshot index)
    (saves : (Desk.prepare ⟨writer, stored⟩).2.save.1 = .ok ()) :
    let file := (Desk.prepare ⟨writer, stored⟩).2.save.2.stored
    (∃ index, (Desk.prepare ⟨reader, file⟩).2.session.index? = some index ∧
      (∀ built, second.fromScratch snapshot = .ok built → index.graph = built.graph ∧
        index.partitions = built.partitions ∧ index.warnings = built.warnings) ∧
      (second.CallsFor snapshot index ↔ ∃ older newer,
        first.fromScratch snapshot = .ok older ∧ second.fromScratch snapshot = .ok newer ∧
          older.events = newer.events) ∧
      (first.ReadsLike second → second.CallsFor snapshot index)) ∧
    ∀ other index, other.bind (StoredFile.usable? text) = none →
      (Desk.prepare ⟨reader, other⟩).2.session.index? = some index →
        second.CallsFor snapshot index := by
  intro file
  obtain ⟨index, called, kept⟩ := Desk.index_of_saves read ⟨writer, stored⟩ opened honest saves
  refine ⟨⟨index, Desk.prepare_of_saved read ⟨reader, file⟩ openedAgain kept,
    fun built again => called.findings_eq again, called.iff_events_eq, fun like => ?_⟩,
    fun other index => Desk.callsFor_of_unserved read ⟨reader, other⟩ openedAgain⟩
  obtain ⟨older, run, agrees⟩ := called
  exact ⟨older, like.fromScratch.symm.trans run, agrees⟩

end

/-! ### Another event base -/

/-- A class and nothing else. -/
def Snapshot.loneBase : Snapshot :=
  { empty with types := [.object [("n", .nat 0)]], names := [.text "Base"] }

/-- `loneBase` as it is written. -/
def Snapshot.loneBaseText : String :=
  "\x7b\"types\":[\x7b\"n\":0\x7d],\"names\":[\"Base\"]\x7d"

/-- Settings without event bases. -/
def Config.baseless : Config :=
  ⟨[], 0, 0, none⟩

/-- Settings with the class as an event base, and with a limit for chains and declaring classes. -/
def Config.based (limit : Nat) : Config :=
  ⟨["Base"], limit, limit, none⟩

theorem Snapshot.ofText?_loneBase : ofText? loneBaseText = some loneBase := by
  let members : List (String × Json) :=
    [("types", .array [.object [("n", .nat 0)]]), ("names", .texts ["Base"])]
  have written : (Json.object members).compact = loneBaseText := by decide +kernel
  have spelled : ∀ member ∈ members, Json.Spelled (Json.levelLimit - 1) member.2 :=
    List.forall_mem_cons.2 ⟨.array (List.forall_mem_singleton.2 (.object
        (List.forall_mem_singleton.2 (.nat (by decide))))),
      List.forall_mem_singleton.2 (.array (List.forall_mem_singleton.2 (.text _ _)))⟩
  have read : Json.ofDocument? keys (Json.object members).compact = some (.object members) :=
    Json.ofDocument?_compact (by decide) spelled
  rw [written] at read
  rw [ofText?, read]
  rfl

namespace Atlas

/-- `loneBase` with the class as an event base. -/
def loneBase (limit : Nat) : Atlas :=
  ⟨.ofSnapshot .loneBase, .based limit⟩

/-- The class is found when the types by variant are known, whatever the limit. -/
theorem findByName_loneBase (limit : Nat) :
    ∃ after, (loneBase limit).findByName "Base"
      { Memory.empty with partitions := some ⟨[], [], [], [0]⟩ } =
        (.ok (some (.plain 0)), after) := by
  obtain ⟨record, known, bare, entry⟩ : ∃ record,
      (loneBase limit).tables.typeData 0 = .ok (.rawClass record) ∧ record.Bare ∧
        (loneBase limit).tables.names[record.name]? = some (.text "Base") :=
    ⟨_, rfl, ⟨rfl, rfl, rfl⟩, rfl⟩
  exact findByName_of_bare known bare rfl rfl rfl rfl rfl entry (by decide +kernel)
    (by decide +kernel) (by decide +kernel) (by decide +kernel) rfl

/-- Without event bases there are no event groups; with the class as an event base it has one, and
the limit makes no difference to it. -/
theorem fromScratch_loneBase : ∃ older groups,
    Config.baseless.fromScratch .loneBase = .ok older ∧ older.events = [] ∧ groups ≠ [] ∧
      ∀ limit, ∃ newer, (Config.based limit).fromScratch .loneBase = .ok newer ∧
        newer.events = groups := by
  obtain ⟨older, ends⟩ : ∃ older, Config.baseless.fromScratch .loneBase = .ok older :=
    Outcome.exists_of_isOk (by decide +kernel)
  have run : Atlas.index ⟨.ofSnapshot .loneBase, .baseless⟩ .empty = (.ok older, _) :=
    Prod.ext ends rfl
  obtain ⟨hierarchy, findings, between, -, read, found, -, -, bases, -⟩ := index_parts run
  refine ⟨older, [("Base", Graph.eventGroup (.ofRelations findings.edges) 0)], ends,
    (Except.ok.inj (congrArg Prod.fst bases)).symm, List.cons_ne_nil _ _, fun limit => ?_⟩
  obtain ⟨after, looked⟩ := findByName_loneBase limit
  have sorted : (loneBase limit).tables.partitions .empty =
      (.ok ⟨[], [], [], [0]⟩, { Memory.empty with partitions := some ⟨[], [], [], [0]⟩ }) := rfl
  have grouped : (loneBase limit).eventGroups (.ofRelations findings.edges) ["Base"] []
      { Memory.empty with partitions := some ⟨[], [], [], [0]⟩ } =
        (.ok [("Base", Graph.eventGroup (.ofRelations findings.edges) 0)], after) := by
    rw [eventGroups, Work.bind_of_ok looked]
    rfl
  exact ⟨_, congrArg Prod.fst (index_of_parts sorted read found grouped), rfl⟩

end Atlas

theorem Session.ofFile?_loneBase (config : Config) :
    ∃ session, ofFile? config Snapshot.loneBaseText = some session :=
  ⟨_, congrArg (Option.map _) Snapshot.ofText?_loneBase⟩

/-- **A session with an event base restores the index of a session without one**, and its event
groups are not those that its settings call for. -/
theorem prepare_after_save_loneBase : ∃ writer reader index built,
    Session.ofFile? .baseless Snapshot.loneBaseText = some writer ∧
      Session.ofFile? (.based 0) Snapshot.loneBaseText = some reader ∧
      (Desk.prepare ⟨writer, none⟩).2.save.1 = .ok () ∧
      (Desk.prepare ⟨reader, (Desk.prepare ⟨writer, none⟩).2.save.2.stored⟩).2.session.index? =
        some index ∧
      (Config.based 0).fromScratch .loneBase = .ok built ∧ index.events ≠ built.events := by
  obtain ⟨older, groups, built, ungrouped, grouped, based⟩ := Atlas.fromScratch_loneBase
  obtain ⟨newer, builtAgain, events⟩ := based 0
  obtain ⟨writer, opened⟩ := Session.ofFile?_loneBase .baseless
  obtain ⟨reader, openedAgain⟩ := Session.ofFile?_loneBase (.based 0)
  have saves : (Desk.prepare ⟨writer, none⟩).2.save.1 = .ok () :=
    Desk.saves_of_fromScratch Snapshot.ofText?_loneBase ⟨writer, none⟩ opened rfl built
  obtain ⟨index, ⟨older', built', agrees⟩, kept⟩ := Desk.index_of_saves Snapshot.ofText?_loneBase
    ⟨writer, none⟩ opened (by rintro _ ⟨⟩) saves
  cases built.symm.trans built'
  refine ⟨writer, reader, index, newer, opened, openedAgain, saves,
    Desk.prepare_of_saved Snapshot.ofText?_loneBase ⟨reader, _⟩ openedAgain kept, builtAgain, ?_⟩
  rw [agrees.events, ungrouped, events]
  exact grouped.symm

/-- A session with the same event base and other limits gets what it calls for, for the event groups
under both settings are the same. -/
theorem prepare_after_save_otherLimits : ∃ writer reader index,
    Session.ofFile? (.based 0) Snapshot.loneBaseText = some writer ∧
      Session.ofFile? (.based 8) Snapshot.loneBaseText = some reader ∧
      (Desk.prepare ⟨writer, none⟩).2.save.1 = .ok () ∧
      (Desk.prepare ⟨reader, (Desk.prepare ⟨writer, none⟩).2.save.2.stored⟩).2.session.index? =
        some index ∧
      (Config.based 8).CallsFor .loneBase index ∧ index.events ≠ [] := by
  obtain ⟨-, groups, -, -, grouped, based⟩ := Atlas.fromScratch_loneBase
  obtain ⟨older, built, events⟩ := based 0
  obtain ⟨newer, builtAgain, eventsAgain⟩ := based 8
  obtain ⟨writer, opened⟩ := Session.ofFile?_loneBase (.based 0)
  obtain ⟨reader, openedAgain⟩ := Session.ofFile?_loneBase (.based 8)
  have saves : (Desk.prepare ⟨writer, none⟩).2.save.1 = .ok () :=
    Desk.saves_of_fromScratch Snapshot.ofText?_loneBase ⟨writer, none⟩ opened rfl built
  obtain ⟨⟨index, installed, -, fits, -⟩, -⟩ := prepare_after_save Snapshot.ofText?_loneBase opened
    openedAgain (by rintro _ ⟨⟩) saves
  have called := fits.2 ⟨older, newer, built, builtAgain, events.trans eventsAgain.symm⟩
  obtain ⟨again, run, agrees⟩ := called
  cases builtAgain.symm.trans run
  refine ⟨writer, reader, index, opened, openedAgain, saves, installed, ⟨newer, run, agrees⟩, ?_⟩
  rw [agrees.events, eventsAgain]
  exact grouped

end ClassAtlas
