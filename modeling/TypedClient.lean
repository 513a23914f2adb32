import TypedClient.Action
import TypedClient.Artifact
import TypedClient.Check.Defect
import TypedClient.Check.Finding
import TypedClient.Collision
import TypedClient.CommandLine.Flag
import TypedClient.CommandLine.Options
import TypedClient.CommandLine.Session
import TypedClient.CommandLine.Words
import TypedClient.Data.Basic
import TypedClient.Data.Calendar
import TypedClient.Data.Shown
import TypedClient.Decimal.Binary
import TypedClient.Decimal.Notation
import TypedClient.Decimal.Reading
import TypedClient.Decimal.Shortest
import TypedClient.Declaration.Args
import TypedClient.Declaration.Delegate
import TypedClient.Declaration.EntityClient
import TypedClient.Declaration.Enumeration
import TypedClient.Declaration.Field
import TypedClient.Declaration.Projection
import TypedClient.Declaration.RootClient
import TypedClient.Digest.Sha256
import TypedClient.Distinct
import TypedClient.Files.Disk
import TypedClient.Files.Fault
import TypedClient.Files.Path
import TypedClient.Json.Basic
import TypedClient.Json.Parser
import TypedClient.Json.Printer
import TypedClient.Json.Quote
import TypedClient.Main
import TypedClient.Naming
import TypedClient.Proofs.Collision
import TypedClient.Proofs.Distinct
import TypedClient.Publication.Manifest
import TypedClient.Publication.Publisher
import TypedClient.Publication.Staging
import TypedClient.Reading.Basic
import TypedClient.Reading.Change
import TypedClient.Reading.Issue
import TypedClient.Reading.Whole
import TypedClient.Rendition.Batch
import TypedClient.Rendition.Passage
import TypedClient.Rendition.Preamble
import TypedClient.Rendition.Script
import TypedClient.Rendition.Types
import TypedClient.Run.Generation
import TypedClient.Run.Log
import TypedClient.Run.Report
import TypedClient.Run.SchemaFile
import TypedClient.Run.Source
import TypedClient.Schema.Basic
import TypedClient.Schema.Keys
import TypedClient.Schema.Lookup
import TypedClient.Schema.Read
import TypedClient.Schema.Shown
import TypedClient.Schema.Write
import TypedClient.Selector
import TypedClient.Settings
import TypedClient.Text.Blank
import TypedClient.Text.CaseTable
import TypedClient.Text.CasedTable
import TypedClient.Text.Casing
import TypedClient.Text.CharRange
import TypedClient.Text.Comment
import TypedClient.Text.DecimalDigit
import TypedClient.Text.Digits
import TypedClient.Text.Letter
import TypedClient.Text.Identifier
import TypedClient.Text.IdentifierTable
import TypedClient.Text.Lines
import TypedClient.Text.Plural
import TypedClient.Text.PrintableTable
import TypedClient.Text.Quoted
import TypedClient.Text.Utf8
import TypedClient.Text.Words
import TypedClient.TypeExpr.Basic
import TypedClient.TypeExpr.Printer
import TypedClient.Yaml.Block
import TypedClient.Yaml.Cursor
import TypedClient.Yaml.Fault
import TypedClient.Yaml.Kind
import TypedClient.Yaml.Lexer
import TypedClient.Yaml.Merge
import TypedClient.Yaml.Node
import TypedClient.Yaml.Plain
import TypedClient.Yaml.Quoted
import TypedClient.Yaml.Scalar
import TypedClient.Yaml.Token
import TypedClient.Yaml.Value
import TypedClient.Proofs.Lookup
import TypedClient.Proofs.Validity
import TypedClient.Proofs.Rendering
import TypedClient.Proofs.Emission
import TypedClient.Proofs.DeclaringLines
import TypedClient.Proofs.Scope
import TypedClient.Proofs.References
import TypedClient.Proofs.ArgumentReferences
import TypedClient.Proofs.Loading
import TypedClient.Proofs.Closure
import TypedClient.Proofs.Selection
import TypedClient.Proofs.Settings
import TypedClient.Proofs.Whole
import TypedClient.Proofs.Conflict
import TypedClient.Proofs.Chain
import TypedClient.Proofs.SelectKeys
import TypedClient.Proofs.Halves
import TypedClient.Proofs.Escapes
import TypedClient.Proofs.Decoding
import TypedClient.Proofs.Texts
import TypedClient.Proofs.EmbeddedSchema
import TypedClient.Proofs.Parts
import TypedClient.Proofs.Rereading
import TypedClient.Proofs.Reports
import TypedClient.Schema.Form
import TypedClient.Proofs.Acceptance
import TypedClient.Proofs.Disk
import TypedClient.Proofs.Staging
import TypedClient.Proofs.Publication
import TypedClient.Proofs.Records
import TypedClient.Proofs.Coded
import TypedClient.Proofs.CodedTypes
import TypedClient.Proofs.Runs
import TypedClient.Proofs.ExitCodes
import TypedClient.Proofs.Flags
import TypedClient.Proofs.Prediction
import TypedClient.Proofs.Agreement
import TypedClient.Proofs.Casing
import TypedClient.Proofs.Getters
import TypedClient.Proofs.Members
import TypedClient.Proofs.ScriptScope
import TypedClient.Proofs.Thinning
import TypedClient.Proofs.Listing
import TypedClient.Proofs.Occurrences
import TypedClient.Proofs.Affixes
import TypedClient.Proofs.Operations
import TypedClient.Proofs.Sameness
import TypedClient.Proofs.Unions
import TypedClient.Proofs.Constituents
import TypedClient.Proofs.ArgumentTypes
import TypedClient.Proofs.Layout
import TypedClient.Proofs.Legibility
import TypedClient.Proofs.FirstOccurrences
import TypedClient.Proofs.EnumerationText
import TypedClient.Proofs.SourceLayouts
import TypedClient.Proofs.Spellings
import TypedClient.Proofs.Changes
import TypedClient.Proofs.Repetition
import TypedClient.Proofs.Reuse
import TypedClient.Proofs.Terminators
import TypedClient.Proofs.Ways
import TypedClient.Proofs.Indentation
import TypedClient.Proofs.DocBlocks
