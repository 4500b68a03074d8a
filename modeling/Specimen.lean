import Specimen.Calendar.Date
import Specimen.Calendar.Reader
import Specimen.Command.Basic
import Specimen.Command.Execute
import Specimen.Command.Failure
import Specimen.Command.Host
import Specimen.Command.Log
import Specimen.Command.Machine
import Specimen.Command.RunDirectory
import Specimen.Config.Basic
import Specimen.Config.Contract
import Specimen.Config.Document
import Specimen.Config.Fault
import Specimen.Config.Format
import Specimen.Config.Vocabulary
import Specimen.Constraint.Evaluation
import Specimen.Constraint.Expr
import Specimen.Constraint.Parser
import Specimen.Constraint.Token
import Specimen.Decimal.Reader
import Specimen.Decimal.Writer
import Specimen.Dict
import Specimen.Document.Node
import Specimen.Encoding.Binary
import Specimen.Generator.Basic
import Specimen.Generator.Choice
import Specimen.Generator.Primitive
import Specimen.Graph
import Specimen.Json.Basic
import Specimen.Json.Decode
import Specimen.Json.Parser
import Specimen.Json.Shape
import Specimen.Leaf.Resolution
import Specimen.Main
import Specimen.Pattern.Category
import Specimen.Pattern.Matcher
import Specimen.Pattern.Parser
import Specimen.Pattern.Sampler
import Specimen.Pattern.Syntax
import Specimen.Plan.AgainstSchema
import Specimen.Plan.Basic
import Specimen.Plan.Compile
import Specimen.Plan.Contexts
import Specimen.Plan.Document
import Specimen.Proofs.Calendar.Days
import Specimen.Proofs.Calendar.Shapes
import Specimen.Proofs.Calendar.Texts
import Specimen.Proofs.Config.Document
import Specimen.Proofs.Constraint.Fields
import Specimen.Proofs.Constraint.Grammar
import Specimen.Proofs.Constraint.Parsing
import Specimen.Proofs.Constraint.Positions
import Specimen.Proofs.Constraint.Renaming
import Specimen.Proofs.Constraint.Rendering
import Specimen.Proofs.Constraint.Scanning
import Specimen.Proofs.Decimal.Digits
import Specimen.Proofs.Decimal.Literal
import Specimen.Proofs.Dict
import Specimen.Proofs.Document.Outline
import Specimen.Proofs.Except
import Specimen.Proofs.Generator.Bounds
import Specimen.Proofs.Generator.Lengths
import Specimen.Proofs.Generator.Months
import Specimen.Proofs.Generator.Overflow
import Specimen.Proofs.Generator.TimesOfDay
import Specimen.Proofs.Graph.Counting
import Specimen.Proofs.Graph.Cycles
import Specimen.Proofs.Graph.Order
import Specimen.Proofs.Json.Records
import Specimen.Proofs.Leaf.Acceptance
import Specimen.Proofs.Leaf.Composition
import Specimen.Proofs.Leaf.Delivery
import Specimen.Proofs.Leaf.Limits
import Specimen.Proofs.Leaf.Rotation
import Specimen.Proofs.Leaf.Steps
import Specimen.Proofs.Plan.Consistency
import Specimen.Proofs.Plan.Inheritance
import Specimen.Proofs.Plan.Merging
import Specimen.Proofs.Plan.Owners
import Specimen.Proofs.Plan.Paths
import Specimen.Proofs.Plan.Precedence
import Specimen.Proofs.Plan.Specificity
import Specimen.Proofs.Plan.Unmatched
import Specimen.Proofs.Plan.Waiting
import Specimen.Proofs.Random.Draw
import Specimen.Proofs.Relation.Candidates
import Specimen.Proofs.Relation.Changes
import Specimen.Proofs.Relation.Coherence
import Specimen.Proofs.Relation.Composition
import Specimen.Proofs.Relation.Enforcement
import Specimen.Proofs.Relation.Instances
import Specimen.Proofs.Relation.Inversion
import Specimen.Proofs.Relation.Judgement
import Specimen.Proofs.Relation.Retries
import Specimen.Proofs.Relation.Rounds
import Specimen.Proofs.Relation.Steps
import Specimen.Proofs.Relation.Suspension
import Specimen.Proofs.Relation.Termination
import Specimen.Proofs.Relation.Turns
import Specimen.Proofs.Run.Action
import Specimen.Proofs.Run.Agreement
import Specimen.Proofs.Run.Attributes
import Specimen.Proofs.Run.Books
import Specimen.Proofs.Run.Budget
import Specimen.Proofs.Run.Comments
import Specimen.Proofs.Run.Composition
import Specimen.Proofs.Run.Cuts
import Specimen.Proofs.Run.Documents
import Specimen.Proofs.Run.Inclusion
import Specimen.Proofs.Run.Judgement
import Specimen.Proofs.Run.Limited
import Specimen.Proofs.Run.Personas
import Specimen.Proofs.Run.Picks
import Specimen.Proofs.Run.Pools
import Specimen.Proofs.Run.Prepared
import Specimen.Proofs.Run.Presence
import Specimen.Proofs.Run.Recursion
import Specimen.Proofs.Run.Refusals
import Specimen.Proofs.Run.Relationships
import Specimen.Proofs.Run.Reordering
import Specimen.Proofs.Run.Rounds
import Specimen.Proofs.Run.Selection
import Specimen.Proofs.Run.Settings
import Specimen.Proofs.Run.Siblings
import Specimen.Proofs.Run.Step
import Specimen.Proofs.Run.Unfinished
import Specimen.Proofs.Run.Unmatched
import Specimen.Proofs.Schema.Document
import Specimen.Proofs.Schema.Leaves
import Specimen.Proofs.Schema.Listing
import Specimen.Proofs.Schema.Positions
import Specimen.Proofs.Schema.Recursion
import Specimen.Proofs.Schema.Reordering
import Specimen.Proofs.Schema.Sound
import Specimen.Proofs.Validity.Chronology
import Specimen.Proofs.Validity.Digits
import Specimen.Proofs.Validity.Durations
import Specimen.Proofs.Validity.Facets
import Specimen.Proofs.Walk.Account
import Specimen.Proofs.Walk.Beside
import Specimen.Proofs.Walk.Books
import Specimen.Proofs.Walk.Branches
import Specimen.Proofs.Walk.Built
import Specimen.Proofs.Walk.Composition
import Specimen.Proofs.Walk.Conformance
import Specimen.Proofs.Walk.Content
import Specimen.Proofs.Walk.Counts
import Specimen.Proofs.Walk.Depth
import Specimen.Proofs.Walk.Evaluation
import Specimen.Proofs.Walk.Gathering
import Specimen.Proofs.Walk.Guard
import Specimen.Proofs.Walk.Inversion
import Specimen.Proofs.Walk.Leaves
import Specimen.Proofs.Walk.Limited
import Specimen.Proofs.Walk.Limits
import Specimen.Proofs.Walk.Nesting
import Specimen.Proofs.Walk.Occurrences
import Specimen.Proofs.Walk.Rules
import Specimen.Proofs.Walk.Steps
import Specimen.Proofs.Walk.Stubs
import Specimen.Proofs.Walk.Unfinished
import Specimen.Proofs.Walk.Warnings
import Specimen.Proofs.Xml.Comments
import Specimen.Proofs.Xml.Declarations
import Specimen.Proofs.Xml.Markup
import Specimen.Proofs.Xml.Names
import Specimen.Proofs.Xml.Reading
import Specimen.Proofs.Xml.RootDeclarations
import Specimen.Random.Digest
import Specimen.Random.Draw
import Specimen.Relation.Resolution
import Specimen.Relation.State
import Specimen.Run.Generate
import Specimen.Run.Report
import Specimen.Run.Selection
import Specimen.Run.State
import Specimen.Schema.Basic
import Specimen.Schema.Catalog
import Specimen.Schema.Contract
import Specimen.Schema.Document
import Specimen.Schema.Primitive
import Specimen.Schema.Resolution
import Specimen.Schema.TypeGraph
import Specimen.Schema.Validation
import Specimen.Text.Case
import Specimen.Text.CodeSet
import Specimen.Text.Hexadecimal
import Specimen.Text.Property
import Specimen.Text.Quoted
import Specimen.Text.Split
import Specimen.Toml.Parser
import Specimen.Toml.Scalar
import Specimen.Toml.Table
import Specimen.Validity.Check
import Specimen.Validity.Lexical
import Specimen.Walk.Build
import Specimen.Walk.Choice
import Specimen.Xml.Namespaces
import Specimen.Xml.Writer
