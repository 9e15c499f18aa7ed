import ClassAtlas.Answer.Entries
import ClassAtlas.Answer.Listing
import ClassAtlas.Answer.Query
import ClassAtlas.Arguments
import ClassAtlas.Config
import ClassAtlas.Fault
import ClassAtlas.Graph
import ClassAtlas.Index.Build
import ClassAtlas.Index.Facts
import ClassAtlas.Index.Hierarchy
import ClassAtlas.Inheritance
import ClassAtlas.Json.Binary64
import ClassAtlas.Json.Document
import ClassAtlas.Json.Printer
import ClassAtlas.Json.Reader
import ClassAtlas.Json.Shape
import ClassAtlas.Json.Value
import ClassAtlas.Lookup
import ClassAtlas.Main
import ClassAtlas.Members
import ClassAtlas.Modifiers
import ClassAtlas.Names
import ClassAtlas.Partitions
import ClassAtlas.Program
import ClassAtlas.Proofs.Answer.Listing
import ClassAtlas.Proofs.Answer.TableQueries
import ClassAtlas.Proofs.Descent
import ClassAtlas.Proofs.Following
import ClassAtlas.Proofs.Graph
import ClassAtlas.Proofs.Graph.Views
import ClassAtlas.Proofs.Graph.WrittenForm
import ClassAtlas.Proofs.Index.Ancestors
import ClassAtlas.Proofs.Index.EventGroups
import ClassAtlas.Proofs.Index.Relations
import ClassAtlas.Proofs.Index.Settings
import ClassAtlas.Proofs.Inheritance
import ClassAtlas.Proofs.Inheritance.Preorder
import ClassAtlas.Proofs.Json.Accepted
import ClassAtlas.Proofs.Json.Members
import ClassAtlas.Proofs.Json.Reading
import ClassAtlas.Proofs.Json.Shapes
import ClassAtlas.Proofs.Lookup
import ClassAtlas.Proofs.Lookup.MoreMemory
import ClassAtlas.Proofs.Lookup.PrintedNames
import ClassAtlas.Proofs.Members
import ClassAtlas.Proofs.Names
import ClassAtlas.Proofs.Names.Directory
import ClassAtlas.Proofs.Names.Entries
import ClassAtlas.Proofs.Names.Expansion
import ClassAtlas.Proofs.Names.Requests
import ClassAtlas.Proofs.Outcome
import ClassAtlas.Proofs.Query.Serialization
import ClassAtlas.Proofs.Query.Spellings
import ClassAtlas.Proofs.Recall.Lookup
import ClassAtlas.Proofs.Recall.Reached
import ClassAtlas.Proofs.Recall.Search
import ClassAtlas.Proofs.Recall.Steps
import ClassAtlas.Proofs.Recall.Types
import ClassAtlas.Proofs.Record.Entries
import ClassAtlas.Proofs.Record.References
import ClassAtlas.Proofs.Record.Spellings
import ClassAtlas.Proofs.Related
import ClassAtlas.Proofs.Rendering.ArgumentTexts
import ClassAtlas.Proofs.Rendering.Asking
import ClassAtlas.Proofs.Rendering.BoundVariables
import ClassAtlas.Proofs.Rendering.Calls
import ClassAtlas.Proofs.Rendering.DeclaringChains
import ClassAtlas.Proofs.Rendering.Members
import ClassAtlas.Proofs.Rendering.Naming
import ClassAtlas.Proofs.Rendering.Nesting
import ClassAtlas.Proofs.Rendering.Questions
import ClassAtlas.Proofs.Rendering.Relating
import ClassAtlas.Proofs.Rendering.Replays
import ClassAtlas.Proofs.Rendering.Shapes
import ClassAtlas.Proofs.Rendering.Termination
import ClassAtlas.Proofs.Rendering.Texts
import ClassAtlas.Proofs.Search.Complement
import ClassAtlas.Proofs.Search.Conjunctions
import ClassAtlas.Proofs.Search.Expressions
import ClassAtlas.Proofs.Search.Findings
import ClassAtlas.Proofs.Search.Isolation
import ClassAtlas.Proofs.Search.Listing
import ClassAtlas.Proofs.Search.Opposites
import ClassAtlas.Proofs.Search.Places
import ClassAtlas.Proofs.Search.Searchable
import ClassAtlas.Proofs.Search.Visits
import ClassAtlas.Proofs.Session.Answers
import ClassAtlas.Proofs.Session.Interleaving
import ClassAtlas.Proofs.Session.LifeCycle
import ClassAtlas.Proofs.Session.Reachable
import ClassAtlas.Proofs.Shell.Completion
import ClassAtlas.Proofs.Store.LifeCycle
import ClassAtlas.Proofs.Store.Prepare
import ClassAtlas.Proofs.Store.Restoring
import ClassAtlas.Proofs.Store.WrittenForm
import ClassAtlas.Proofs.Substitution.Alone
import ClassAtlas.Proofs.Substitution.ChainEnds
import ClassAtlas.Proofs.Substitution.Chains
import ClassAtlas.Proofs.Substitution.Composition
import ClassAtlas.Proofs.Substitution.Computation
import ClassAtlas.Proofs.Substitution.Cycles
import ClassAtlas.Proofs.Substitution.History
import ClassAtlas.Proofs.Substitution.Maps
import ClassAtlas.Proofs.Substitution.Precedence
import ClassAtlas.Proofs.Substitution.Range
import ClassAtlas.Proofs.Substitution.Reference
import ClassAtlas.Proofs.Substitution.Renumbering
import ClassAtlas.Proofs.Substitution.Resolution
import ClassAtlas.Proofs.Substitution.Siblings
import ClassAtlas.Proofs.Tables
import ClassAtlas.Proofs.Text.Base64
import ClassAtlas.Proofs.Text.Pieces
import ClassAtlas.Query.Doc
import ClassAtlas.Query.Expr
import ClassAtlas.Query.ExprText
import ClassAtlas.Query.Params
import ClassAtlas.Record.Decode
import ClassAtlas.Record.Kind
import ClassAtlas.Record.Scalar
import ClassAtlas.Record.Types
import ClassAtlas.Related
import ClassAtlas.RelationKind
import ClassAtlas.Render.Options
import ClassAtlas.Render.Signature
import ClassAtlas.Render.Text
import ClassAtlas.Search.Filter
import ClassAtlas.Search.Hits
import ClassAtlas.Search.Subject
import ClassAtlas.Search.Terms
import ClassAtlas.Session
import ClassAtlas.Shell.Command
import ClassAtlas.Shell.Completion
import ClassAtlas.Shell.Console
import ClassAtlas.Shell.Grid
import ClassAtlas.Shell.Highlight
import ClassAtlas.Shell.Prompt
import ClassAtlas.Shell.Screen
import ClassAtlas.Shell.Style
import ClassAtlas.Shell.Words
import ClassAtlas.Snapshot
import ClassAtlas.Store
import ClassAtlas.Store.Text
import ClassAtlas.Substitution
import ClassAtlas.Tables
import ClassAtlas.Text.Base64
import ClassAtlas.Text.Blank
import ClassAtlas.Text.Case
import ClassAtlas.Text.CaseTable
import ClassAtlas.Text.EmojiTable
import ClassAtlas.Text.EscapeTable
import ClassAtlas.Text.LetterTable
import ClassAtlas.Text.Numerals
import ClassAtlas.Text.Width
import ClassAtlas.Text.WidthTable
import ClassAtlas.TypeRef
import ClassAtlas.TypeView
import ClassAtlas.VarMap
import ClassAtlas.Work
