import CloudPlan.Architecture.Basic
import CloudPlan.Architecture.Document
import CloudPlan.Architecture.Expansion
import CloudPlan.Architecture.OfGraph
import CloudPlan.Architecture.Order
import CloudPlan.Catalog.Aws
import CloudPlan.Catalog.Basic
import CloudPlan.Catalog.HiddenRule
import CloudPlan.Catalog.Hydration
import CloudPlan.Catalog.Provider
import CloudPlan.Catalog.ResourceType
import CloudPlan.Code.Block
import CloudPlan.Code.Context
import CloudPlan.Code.Generation
import CloudPlan.Code.Identifier
import CloudPlan.Code.Registry
import CloudPlan.Code.Writer
import CloudPlan.CommandLine.Failure
import CloudPlan.CommandLine.Request
import CloudPlan.CommandLine.Run
import CloudPlan.CommandLine.Words
import CloudPlan.Constraint.Basic
import CloudPlan.Constraint.Document
import CloudPlan.Constraint.Files
import CloudPlan.Constraint.Requirement
import CloudPlan.Constraint.Store
import CloudPlan.Constraint.Violation
import CloudPlan.Diagram.Basic
import CloudPlan.Diagram.Document
import CloudPlan.Diagram.Graph
import CloudPlan.Diagram.Resolution
import CloudPlan.Dictionary
import CloudPlan.Expression.Basic
import CloudPlan.Expression.Evaluation
import CloudPlan.Expression.Reader
import CloudPlan.Expression.Tree
import CloudPlan.Expression.Value
import CloudPlan.Files.Output
import CloudPlan.Files.Path
import CloudPlan.Files.System
import CloudPlan.Files.Tree
import CloudPlan.Json.Decode
import CloudPlan.Json.Printer
import CloudPlan.Json.Reader
import CloudPlan.Json.Tree
import CloudPlan.Json.Value
import CloudPlan.Main
import CloudPlan.Number.Binary
import CloudPlan.Number.Layout
import CloudPlan.Number.Reading
import CloudPlan.Number.Shortest
import CloudPlan.Pipeline.Basic
import CloudPlan.Pipeline.Project
import CloudPlan.Proofs.Architecture.Belonging
import CloudPlan.Proofs.Architecture.Cycles
import CloudPlan.Proofs.Architecture.DoubledLinks
import CloudPlan.Proofs.Architecture.Families
import CloudPlan.Proofs.Architecture.Growth
import CloudPlan.Proofs.Architecture.Idempotence
import CloudPlan.Proofs.Architecture.Order
import CloudPlan.Proofs.Architecture.Places
import CloudPlan.Proofs.Architecture.Precedence
import CloudPlan.Proofs.Architecture.Reachable
import CloudPlan.Proofs.Architecture.Relevance
import CloudPlan.Proofs.Architecture.Resorting
import CloudPlan.Proofs.Architecture.Restoration
import CloudPlan.Proofs.Architecture.Resumption
import CloudPlan.Proofs.Architecture.Retention
import CloudPlan.Proofs.Architecture.Session
import CloudPlan.Proofs.Architecture.Shortfall
import CloudPlan.Proofs.Architecture.SortMoments
import CloudPlan.Proofs.Architecture.SortPlaces
import CloudPlan.Proofs.Architecture.SortState
import CloudPlan.Proofs.Architecture.Sortability
import CloudPlan.Proofs.Architecture.Synthesis
import CloudPlan.Proofs.Catalog.Aws
import CloudPlan.Proofs.Catalog.Filing
import CloudPlan.Proofs.Catalog.Hydration
import CloudPlan.Proofs.Catalog.Keys
import CloudPlan.Proofs.Catalog.Registration
import CloudPlan.Proofs.Catalog.Resolution
import CloudPlan.Proofs.Code.Ancestors
import CloudPlan.Proofs.Code.Attributes
import CloudPlan.Proofs.Code.Generation
import CloudPlan.Proofs.Code.Identifier
import CloudPlan.Proofs.Code.LocalNames
import CloudPlan.Proofs.Code.Names
import CloudPlan.Proofs.Code.References
import CloudPlan.Proofs.Code.Reporting
import CloudPlan.Proofs.Code.Routing
import CloudPlan.Proofs.Code.Sanitizing
import CloudPlan.Proofs.Code.Spelling
import CloudPlan.Proofs.Code.Surroundings
import CloudPlan.Proofs.Constraint.AllowedParents
import CloudPlan.Proofs.Constraint.Compliance
import CloudPlan.Proofs.Constraint.ContentLimits
import CloudPlan.Proofs.Constraint.Findings
import CloudPlan.Proofs.Constraint.RequiredParents
import CloudPlan.Proofs.Constraint.Values
import CloudPlan.Proofs.Diagram.Acceptance
import CloudPlan.Proofs.Diagram.Checks
import CloudPlan.Proofs.Diagram.Containment
import CloudPlan.Proofs.Diagram.EdgeIds
import CloudPlan.Proofs.Diagram.Forest
import CloudPlan.Proofs.Diagram.Holding
import CloudPlan.Proofs.Diagram.ReportedCycles
import CloudPlan.Proofs.Diagram.Resolution
import CloudPlan.Proofs.Documents
import CloudPlan.Proofs.Expression.Grammar
import CloudPlan.Proofs.Expression.Mending
import CloudPlan.Proofs.Files.Output
import CloudPlan.Proofs.Files.Path
import CloudPlan.Proofs.Files.Tree
import CloudPlan.Proofs.Json.Numerals
import CloudPlan.Proofs.Json.PrintedTexts
import CloudPlan.Proofs.Json.TextLists
import CloudPlan.Proofs.Lookup
import CloudPlan.Proofs.Number.Reading
import CloudPlan.Proofs.Number.Unpacking
import CloudPlan.Proofs.Number.Whole
import CloudPlan.Proofs.Outcome
import CloudPlan.Proofs.Pipeline.Attachments
import CloudPlan.Proofs.Pipeline.Checking
import CloudPlan.Proofs.Pipeline.Generation
import CloudPlan.Proofs.Pipeline.Reporting
import CloudPlan.Proofs.Pipeline.VolumeSizes
import CloudPlan.Proofs.Relation.Acyclic
import CloudPlan.Proofs.Relation.Emission
import CloudPlan.Proofs.Relation.Rooted
import CloudPlan.Proofs.Relation.Round
import CloudPlan.Proofs.Sequence
import CloudPlan.Proofs.Terraform.Attachments
import CloudPlan.Proofs.Terraform.Backward
import CloudPlan.Proofs.Terraform.Decoding
import CloudPlan.Proofs.Terraform.Environment
import CloudPlan.Proofs.Terraform.Inline
import CloudPlan.Proofs.Terraform.Lines
import CloudPlan.Proofs.Terraform.Literal
import CloudPlan.Proofs.Terraform.Policy
import CloudPlan.Proofs.Terraform.Rendering
import CloudPlan.Proofs.Terraform.VolumeSizes
import CloudPlan.Settings.Basic
import CloudPlan.Settings.Document
import CloudPlan.Terraform.Aws
import CloudPlan.Terraform.Hcl
import CloudPlan.Terraform.Writer
import CloudPlan.Text.Blank
import CloudPlan.Text.Digits
import CloudPlan.Text.LetterCase
import CloudPlan.Text.LetterCase.Table
import CloudPlan.Text.Quoted
import CloudPlan.Text.Quoted.Table
import CloudPlan.Text.Utf8
import CloudPlan.Toml.Document
import CloudPlan.Toml.Scalar
import CloudPlan.Toml.Value
import CloudPlan.Yaml.Document
import CloudPlan.Yaml.Glyph
import CloudPlan.Yaml.Node
import CloudPlan.Yaml.Scalar
import CloudPlan.Yaml.Token
