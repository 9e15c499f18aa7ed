import ClassAtlas.Json.Document
import ClassAtlas.Json.Shape

/-!
# Configuration

Which base classes group events, how far chains of type variables and of owner types are followed,
and where stored indices are kept.
-/

set_option autoImplicit false

namespace ClassAtlas

/-- The settings of a session. -/
structure Config where
  eventBaseClasses : List String
  hopLimit : Nat
  ownerLimit : Nat
  cacheDir : Option String
  deriving DecidableEq, Repr

namespace Config

/-- The event base classes of a session without a setting of its own. -/
def defaultEventBaseClasses : List String :=
  ["dev.latvian.mods.kubejs.event.EventJS", "net.fabricmc.fabric.api.event.Event",
    "dev.architectury.event.Event", "dev.latvian.mods.kubejs.recipe.RecipeJS",
    "net.minecraftforge.eventbus.api.Event"]

/-- The settings of a session without settings of its own. -/
def default : Config := ⟨defaultEventBaseClasses, 1000, 100, none⟩

/-- Where stored indices are kept inside the home directory. -/
def defaultIndexDir : String := ".refdoc/indices"

/-- The directory of stored indices, for a home directory. -/
def indexDir (config : Config) (home : String) : String :=
  config.cacheDir.getD s!"{home}/{defaultIndexDir}"

/-- The settings as JSON. -/
def toJson (config : Config) : Json :=
  .object [
    ("event_base_classes", .texts config.eventBaseClasses),
    ("substitution_hop_limit", .nat config.hopLimit),
    ("owner_walk_limit", .nat config.ownerLimit),
    ("cache_dir", .ofOption .text config.cacheDir)]

end Config

/-- The fields of settings, in their order. -/
def Config.keys : List String :=
  ["event_base_classes", "substitution_hop_limit", "owner_walk_limit", "cache_dir"]

/-- Settings; what is left out keeps its default. -/
def Shape.config : Shape Config := fun value => do
  let fields ← members Config.keys "a configuration" value
  let eventBaseClasses ←
    fieldOr fields "event_base_classes" (list string) Config.default.eventBaseClasses
  let hopLimit ← fieldOr fields "substitution_hop_limit" nat64 Config.default.hopLimit
  let ownerLimit ← fieldOr fields "owner_walk_limit" nat64 Config.default.ownerLimit
  let cacheDir ← fieldOr fields "cache_dir" (optional string) none
  return { eventBaseClasses, hopLimit, ownerLimit, cacheDir }

/-- The settings that a text spells. -/
def Config.ofText? (text : String) : Option Config :=
  match Json.ofDocument? keys text with
  | none => none
  | some value =>
    match Shape.config value with
    | .ok config => some config
    | .error _ => none

end ClassAtlas
