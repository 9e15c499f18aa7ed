import ClassAtlas.Proofs.Names

/-!
# What was answered once is answered again

A step with memory forgets nothing: what is remembered before it is remembered after it, and of the
class names that were found it changes nothing at all (`Work.Learns`).  A step that gave a result
gives it again from then on, whatever is remembered besides (`Work.Recalls`).  More generally one
step may give from then on what another one gave, as long as some part of the memory lasts
(`Work.EchoedBy`), and when it learns no names, packages and texts by that, it replays the other one
(`Work.ReplayedBy`).  All this passes from the steps of a sequence to the sequence, so each function
is looked at once.

A step that remembers its own results recalls them without a look at the steps it is made of, which
only have to learn.
-/

set_option autoImplicit false

namespace ClassAtlas

section

variable {κ ν : Type} [BEq κ] [Hashable κ]

/-- A table whose entries are all in another one. -/
def Keeps (earlier later : Std.HashMap κ ν) : Prop :=
  ∀ (key : κ) (value : ν), earlier[key]? = some value → later[key]? = some value

variable {first second third : Std.HashMap κ ν}

theorem Keeps.refl (table : Std.HashMap κ ν) : Keeps table table :=
  fun _ _ found => found

theorem Keeps.trans (left : Keeps first second) (right : Keeps second third) : Keeps first third :=
  fun key value found => right key value (left key value found)

/-- An entry that is new, or the same as before, takes the place of no other one. -/
theorem Keeps.insert [LawfulBEq κ] {key : κ} {value : ν} (kept : Keeps first second)
    (same : ∀ older, first[key]? = some older → older = value) :
    Keeps first (second.insert key value) := by
  intro other older found
  rw [Std.HashMap.getElem?_insert]
  split
  · next here =>
    rw [← beq_iff_eq.1 here] at found
    rw [same older found]
  · exact kept other older found

/-- An entry that is there already is not new. -/
theorem Keeps.insert_known [LawfulBEq κ] {key : κ} {value : ν} (kept : Keeps first second)
    (known : second[key]? = some value) : Keeps (first.insert key value) second := by
  intro other older found
  have before : ∀ {key : κ} {value : ν}, first[key]? = some value → second[key]? = some value :=
    kept _ _
  exact forall_getElem?_insert before known found

end

namespace Directory

variable {ε : Type} {dir : Directory ε} {known later : Std.HashMap Nat String} {text : String}

/-- A request forgets nothing: an entry that is remembered already is resolved to what is
remembered. -/
theorem keeps_ask (id : Nat) : Keeps known (dir.ask known id) := by
  rw [ask]
  split
  · next text resolved =>
    apply (Keeps.refl known).insert
    intro older found
    obtain ⟨entry, listed⟩ := present resolved
    exact Except.ok.inj ((dir.recalls listed found _).symm.trans resolved)
  · exact .refl known

/-- An entry that was resolved is remembered with its text. -/
theorem ask_kept {id : Nat} (given : dir.resolve known (chainLimit + 1) id = .ok text)
    (kept : Keeps (dir.ask known id) later) : later[id]? = some text := by
  rw [ask_of_ok given] at kept
  exact kept id text Std.HashMap.getElem?_insert_self

/-- An entry that was resolved is resolved again to the same text. -/
theorem resolve_again {id : Nat} (given : dir.resolve known (chainLimit + 1) id = .ok text)
    (kept : Keeps (dir.ask known id) later) :
    dir.resolve later (chainLimit + 1) id = .ok text := by
  obtain ⟨entry, listed⟩ := present given
  exact dir.recalls listed (ask_kept given kept) _

/-- By resolving it again nothing is learned. -/
theorem ask_again {id : Nat} (given : dir.resolve known (chainLimit + 1) id = .ok text)
    (kept : Keeps (dir.ask known id) later) : Keeps (dir.ask later id) later := by
  rw [ask_of_ok (resolve_again given kept)]
  exact (Keeps.refl later).insert_known (ask_kept given kept)

end Directory

namespace Memory

/-- All that is remembered is remembered later as well. -/
structure Within (earlier later : Memory) : Prop where
  names : Keeps earlier.names later.names
  packages : Keeps earlier.packages later.packages
  maps : Keeps earlier.maps later.maps
  texts : Keeps earlier.texts later.texts
  found : Keeps earlier.found later.found
  partitions : ∀ {partitions : Partitions},
    earlier.partitions = some partitions → later.partitions = some partitions

theorem Within.refl (memory : Memory) : memory.Within memory :=
  ⟨.refl _, .refl _, .refl _, .refl _, .refl _, fun found => found⟩

theorem Within.trans {first second third : Memory} (left : first.Within second)
    (right : second.Within third) : first.Within third :=
  ⟨left.names.trans right.names, left.packages.trans right.packages, left.maps.trans right.maps,
    left.texts.trans right.texts, left.found.trans right.found,
    fun found => right.partitions (left.partitions found)⟩

/-- The names, packages and texts that are remembered are remembered later as well. -/
structure Spells (earlier later : Memory) : Prop where
  names : Keeps earlier.names later.names
  packages : Keeps earlier.packages later.packages
  texts : Keeps earlier.texts later.texts

theorem Spells.refl (memory : Memory) : memory.Spells memory :=
  ⟨.refl _, .refl _, .refl _⟩

theorem Spells.trans {first second third : Memory} (left : first.Spells second)
    (right : second.Spells third) : first.Spells third :=
  ⟨left.names.trans right.names, left.packages.trans right.packages, left.texts.trans right.texts⟩

theorem Within.spells {earlier later : Memory} (within : earlier.Within later) :
    earlier.Spells later :=
  ⟨within.names, within.packages, within.texts⟩

/-- What lasts in a memory: it is there later when nothing is forgotten, and it passes on. -/
structure Lasting (kept : Memory → Memory → Prop) : Prop where
  within : ∀ {earlier later : Memory}, earlier.Within later → kept earlier later
  trans : ∀ {first second third : Memory}, kept first second → kept second third →
    kept first third

theorem lasting_within : Lasting Within :=
  ⟨id, Within.trans⟩

theorem lasting_spells : Lasting Spells :=
  ⟨Within.spells, Spells.trans⟩

/-- More is remembered later, except of the class names that were found. -/
structure Learns (earlier later : Memory) : Prop where
  within : earlier.Within later
  found : later.found = earlier.found

theorem Learns.refl (memory : Memory) : memory.Learns memory :=
  ⟨.refl memory, rfl⟩

theorem Learns.trans {first second third : Memory} (left : first.Learns second)
    (right : second.Learns third) : first.Learns third :=
  ⟨left.within.trans right.within, right.found.trans left.found⟩

end Memory

namespace Work

variable {α β : Type}

/-- A step that forgets nothing. -/
def Learns (step : Work α) : Prop :=
  ∀ memory : Memory, memory.Learns (step memory).2

/-- Two steps that forget nothing, where the second one gives what the first gave as long as what is
kept lasts. -/
structure EchoedBy (kept : Memory → Memory → Prop) (step echo : Work α) : Prop where
  learns : Learns step
  echoLearns : Learns echo
  again : ∀ {memory : Memory} {value : α}, (step memory).1 = .ok value →
    ∀ {later : Memory}, kept (step memory).2 later → (echo later).1 = .ok value

/-- Two steps of which the second one gives what the first gave, as long as names, packages and
texts last, and learns no others by that. -/
structure ReplayedBy (step echo : Work α) : Prop extends EchoedBy Memory.Spells step echo where
  rests : ∀ {memory : Memory} {value : α}, (step memory).1 = .ok value →
    ∀ {later : Memory}, (step memory).2.Spells later → (echo later).2.Spells later

/-- A step that forgets nothing, and whose results are given again from then on. -/
structure Recalls (step : Work α) : Prop where
  learns : Learns step
  again : ∀ {memory : Memory} {value : α}, (step memory).1 = .ok value →
    ∀ {later : Memory}, (step memory).2.Within later → (step later).1 = .ok value

theorem learns_pure (value : α) : Learns (pure value) :=
  fun memory => .refl memory

theorem learns_lift (outcome : Except Fault α) : Learns (lift outcome : Work α) :=
  fun memory => .refl memory

theorem Learns.bind {first : Work α} {next : α → Work β} (learns : Learns first)
    (then_ : ∀ value, Learns (next value)) : Learns (first >>= next) := by
  intro memory
  have here := learns memory
  rw [bind_apply]
  rcases run : first memory with ⟨fault | value, between⟩
  · rw [run] at here
    exact here
  · rw [run] at here
    exact here.trans (then_ value between)

theorem recalls_pure (value : α) : Recalls (pure value) :=
  ⟨learns_pure value, fun given _ _ => given⟩

theorem recalls_lift (outcome : Except Fault α) : Recalls (lift outcome : Work α) :=
  ⟨learns_lift outcome, fun given _ _ => given⟩

section

variable {kept : Memory → Memory → Prop} (lasting : Memory.Lasting kept)

include lasting

/-- How a sequence is echoed: the result of the first step is given again, and what it learned and
later steps learned is still there when the next step goes on from it. -/
theorem EchoedBy.bind_again {first first' : Work α} {next : α → Work β}
    (echoed : EchoedBy kept first first') (learns : ∀ value, Learns (next value))
    {memory later : Memory} {result : β} (given : ((first >>= next) memory).1 = .ok result)
    (lasts : kept ((first >>= next) memory).2 later) :
    ∃ value between between', first memory = (.ok value, between) ∧
      first' later = (.ok value, between') ∧ (next value between).1 = .ok result ∧
        kept between later ∧ kept (next value between).2 between' := by
  rw [bind_apply] at given lasts
  have again := @echoed.again memory
  rcases run : first memory with ⟨fault | value, between⟩
  · rw [run] at given
    cases given
  · rw [run] at given lasts again
    have here : kept between later :=
      lasting.trans (lasting.within (learns value between).within) lasts
    have replayed := again rfl here
    have learned := lasting.within (echoed.echoLearns later).within
    rcases rerun : first' later with ⟨fault' | value', between'⟩
    · rw [rerun] at replayed
      cases replayed
    · rw [rerun] at replayed learned
      cases replayed
      exact ⟨value, between, between', rfl, rfl, given, here, lasting.trans lasts learned⟩

/-- A sequence is echoed when its steps are. -/
theorem EchoedBy.bind {first first' : Work α} {next next' : α → Work β}
    (echoed : EchoedBy kept first first')
    (then_ : ∀ value, EchoedBy kept (next value) (next' value)) :
    EchoedBy kept (first >>= next) (first' >>= next') := by
  refine ⟨echoed.learns.bind fun value => (then_ value).learns,
    echoed.echoLearns.bind fun value => (then_ value).echoLearns, ?_⟩
  intro memory result given later lasts
  obtain ⟨value, between, between', -, rerun, onward, -, there⟩ :=
    echoed.bind_again lasting (fun value => (then_ value).learns) given lasts
  rw [bind_of_ok rerun]
  exact (then_ value).again onward there

theorem EchoedBy.recalls {step : Work α} (echoed : EchoedBy kept step step) : Recalls step :=
  ⟨echoed.learns, fun given _ within => echoed.again given (lasting.within within)⟩

end

/-- A sequence is replayed when its steps are. -/
theorem ReplayedBy.bind {first first' : Work α} {next next' : α → Work β}
    (replayed : ReplayedBy first first')
    (then_ : ∀ value, ReplayedBy (next value) (next' value)) :
    ReplayedBy (first >>= next) (first' >>= next') := by
  refine ⟨replayed.toEchoedBy.bind Memory.lasting_spells fun value => (then_ value).toEchoedBy, ?_⟩
  intro memory result given later lasts
  obtain ⟨value, between, between', run, rerun, onward, here, there⟩ :=
    replayed.bind_again Memory.lasting_spells (fun value => (then_ value).learns) given lasts
  have still := @replayed.rests memory
  rw [run] at still
  have rested := still rfl here
  rw [rerun] at rested
  rw [bind_of_ok rerun]
  exact ((then_ value).rests onward there).trans rested

theorem Recalls.echoedBy {step : Work α} (recalls : Recalls step) :
    EchoedBy Memory.Within step step :=
  ⟨recalls.learns, recalls.learns, recalls.again⟩

theorem replayedBy_lift (outcome : Except Fault α) :
    ReplayedBy (lift outcome : Work α) (lift outcome) :=
  ⟨⟨learns_lift outcome, learns_lift outcome, fun given _ _ => given⟩, fun _ later _ => .refl later⟩

theorem Recalls.bind {first : Work α} {next : α → Work β} (recalls : Recalls first)
    (then_ : ∀ value, Recalls (next value)) : Recalls (first >>= next) :=
  (recalls.echoedBy.bind Memory.lasting_within fun value => (then_ value).echoedBy).recalls
    Memory.lasting_within

end Work

namespace Tables

variable {tables : Tables}

/-! ## Names and packages -/

theorem name_learns (tables : Tables) (id : Nat) : Work.Learns (tables.name id) := by
  intro memory
  rw [name_apply]
  exact ⟨{ Memory.Within.refl memory with names := Directory.keeps_ask id }, rfl⟩

theorem name_replayedBy (tables : Tables) (id : Nat) :
    Work.ReplayedBy (tables.name id) (tables.name id) := by
  refine ⟨⟨tables.name_learns id, tables.name_learns id, ?_⟩, ?_⟩
  · intro memory text given later spells
    rw [name_apply] at given spells ⊢
    exact Directory.resolve_again given spells.names
  · intro memory text given later spells
    rw [name_apply] at given spells ⊢
    exact { Memory.Spells.refl later with names := Directory.ask_again given spells.names }

theorem name_recalls (tables : Tables) (id : Nat) : Work.Recalls (tables.name id) :=
  (tables.name_replayedBy id).toEchoedBy.recalls Memory.lasting_spells

theorem packageName_learns (tables : Tables) (id : Nat) : Work.Learns (tables.packageName id) := by
  intro memory
  rw [packageName_apply]
  exact ⟨{ Memory.Within.refl memory with packages := Directory.keeps_ask id }, rfl⟩

theorem packageName_replayedBy (tables : Tables) (id : Nat) :
    Work.ReplayedBy (tables.packageName id) (tables.packageName id) := by
  refine ⟨⟨tables.packageName_learns id, tables.packageName_learns id, ?_⟩, ?_⟩
  · intro memory text given later spells
    rw [packageName_apply] at given spells ⊢
    exact Directory.resolve_again given spells.packages
  · intro memory text given later spells
    rw [packageName_apply] at given spells ⊢
    exact { Memory.Spells.refl later with packages := Directory.ask_again given spells.packages }

theorem packageName_recalls (tables : Tables) (id : Nat) : Work.Recalls (tables.packageName id) :=
  (tables.packageName_replayedBy id).toEchoedBy.recalls Memory.lasting_spells

theorem optionalName_recalls (tables : Tables) (id : Option Nat) :
    Work.Recalls (tables.optionalName id) := by
  cases id with
  | none => exact Work.recalls_pure none
  | some id => exact (tables.name_recalls id).bind fun text => Work.recalls_pure _

end Tables

end ClassAtlas
