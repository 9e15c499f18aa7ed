import ClassAtlas.Json.Value
import ClassAtlas.Work

/-!
# Listings

A listing has one row for each item.  An item whose row cannot be made is listed as a failure beside
the rows of the others, which are not affected.
-/

set_option autoImplicit false

namespace ClassAtlas

/-- An item without a row: what it is, and what went wrong. -/
structure RowFailure where
  subject : String
  message : String
  deriving DecidableEq, Repr

/-- The rows that could be made and the items whose rows could not. -/
structure Listing (α : Type) where
  rows : List α
  failures : List RowFailure
  deriving Repr

namespace Listing

/-- A listing of nothing. -/
def empty {α : Type} : Listing α := ⟨[], []⟩

/-- Adds a row in front. -/
def addRow {α : Type} (listing : Listing α) (row : α) : Listing α :=
  { listing with rows := row :: listing.rows }

/-- Adds a failure in front. -/
def addFailure {α : Type} (listing : Listing α) (failure : RowFailure) : Listing α :=
  { listing with failures := failure :: listing.failures }

/-- Lists items, each by its subject and its row. -/
def build {ι α : Type} (subject : ι → String) (row : ι → Work α) : List ι → Work (Listing α)
  | [] => pure empty
  | item :: rest => do
    let outcome ← Work.attempt (row item)
    let others ← build subject row rest
    match outcome with
    | .ok made => return others.addRow made
    | .error fault => return others.addFailure ⟨subject item, fault.message⟩

/-- A listing as JSON. -/
def toJson {α : Type} (encode : α → Json) (listing : Listing α) : Json :=
  .object [
    ("rows", .ofList encode listing.rows),
    ("failures", .ofList
      (fun failure => .object [
        ("subject", .text failure.subject), ("message", .text failure.message)])
      listing.failures)]

/-- Whether there is neither a row nor a failure. -/
def isEmpty {α : Type} (listing : Listing α) : Bool :=
  listing.rows.isEmpty && listing.failures.isEmpty

end Listing

end ClassAtlas
