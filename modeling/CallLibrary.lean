import CallLibrary.Calls.Argument
import CallLibrary.Calls.Form
import CallLibrary.Calls.Wrapper
import CallLibrary.Command.Report
import CallLibrary.Command.Request
import CallLibrary.Command.Run
import CallLibrary.Command.Shell
import CallLibrary.Command.Texts
import CallLibrary.Decimal.Binary64
import CallLibrary.Decimal.Shortest
import CallLibrary.Decimal.Style
import CallLibrary.Document.Error
import CallLibrary.Document.Json.Number
import CallLibrary.Document.Json.Reader
import CallLibrary.Document.Json.Text
import CallLibrary.Document.Node
import CallLibrary.Document.Shape
import CallLibrary.Document.Toml.Number
import CallLibrary.Document.Toml.Reader
import CallLibrary.Document.Toml.Statement
import CallLibrary.Document.Toml.Table
import CallLibrary.Document.Toml.Text
import CallLibrary.Generator.Assembly
import CallLibrary.Generator.Names
import CallLibrary.Interface.Basic
import CallLibrary.Interface.Encoding
import CallLibrary.Interface.Mutability
import CallLibrary.Interface.Parameter
import CallLibrary.Interface.Schema
import CallLibrary.Layout.Builder
import CallLibrary.Layout.Fragment
import CallLibrary.Layout.Indent
import CallLibrary.Main
import CallLibrary.Manifest.Basic
import CallLibrary.Manifest.Diagnostic
import CallLibrary.Manifest.Load
import CallLibrary.Manifest.Schema
import CallLibrary.Manifest.Validation
import CallLibrary.Manifest.Violation
import CallLibrary.ResourceId
import CallLibrary.Solidity.Declaration
import CallLibrary.Solidity.Function
import CallLibrary.Solidity.Identifier
import CallLibrary.Solidity.Import
import CallLibrary.Solidity.Library
import CallLibrary.Solidity.SourceUnit
import CallLibrary.Text.Blank
import CallLibrary.Text.Hex
import CallLibrary.Text.Hidden
import CallLibrary.Text.Lines
import CallLibrary.Text.LowerCase
import CallLibrary.Text.Quoted
import CallLibrary.Text.Span
import CallLibrary.Text.Split
import CallLibrary.Workspace.Basic
import CallLibrary.Workspace.Path
import CallLibrary.Proofs.Outcome
import CallLibrary.Proofs.Solidity.ImportTable
import CallLibrary.Proofs.Solidity.ImportHistory
import CallLibrary.Proofs.Calls.Ambiguity
import CallLibrary.Proofs.Calls.Inputs
import CallLibrary.Proofs.Generator.Variants
import CallLibrary.Proofs.Generator.Verdict
import CallLibrary.Proofs.Manifest.Rendering
import CallLibrary.Proofs.Generator.Agreement
import CallLibrary.Proofs.Calls.OneLines
import CallLibrary.Proofs.Generator.Contents
import CallLibrary.Proofs.Solidity.Identifier
import CallLibrary.Proofs.Manifest.FirstBroken
import CallLibrary.Proofs.Manifest.Rules
import CallLibrary.Proofs.Manifest.DerivedNames
import CallLibrary.Proofs.Calls.Imports
import CallLibrary.Proofs.Calls.Resolution
import CallLibrary.Proofs.Generator.ImportSection
import CallLibrary.Proofs.Generator.Dispatch
import CallLibrary.Proofs.Manifest.NeededImports
import CallLibrary.Proofs.Generator.Declarations
import CallLibrary.Proofs.Manifest.FileNames
import CallLibrary.Proofs.Generator.Overloads
import CallLibrary.Proofs.Manifest.Overloads
import CallLibrary.Proofs.Solidity.Locals
import CallLibrary.Proofs.Generator.Locals
import CallLibrary.Proofs.Manifest.VariantNames
import CallLibrary.Proofs.Text.Comments
import CallLibrary.Proofs.Generator.Renaming
import CallLibrary.Proofs.Manifest.Renaming
import CallLibrary.Proofs.Document.Drafts
import CallLibrary.Proofs.Document.Spellings
import CallLibrary.Proofs.Document.Trees
import CallLibrary.Proofs.Text.Words
import CallLibrary.Proofs.Interface.Declaration
import CallLibrary.Proofs.Interface.Grammar
import CallLibrary.Proofs.Interface.WellFormed
import CallLibrary.Proofs.Solidity.ParameterList
import CallLibrary.Proofs.Interface.Spellings
import CallLibrary.Proofs.Interface.RoundTrip
import CallLibrary.Proofs.Interface.Formats
import CallLibrary.Proofs.Manifest.Decoding
import CallLibrary.Proofs.Manifest.Spellings
import CallLibrary.Proofs.Manifest.RoundTrip
import CallLibrary.Proofs.Manifest.Formats
import CallLibrary.Proofs.Text.Hex
import CallLibrary.Proofs.ResourceId
import CallLibrary.Proofs.Manifest.DerivedIds
import CallLibrary.Proofs.Manifest.Defaults
import CallLibrary.Proofs.Workspace.Paths
import CallLibrary.Proofs.Workspace.Entries
import CallLibrary.Proofs.Command.Requests
import CallLibrary.Proofs.Command.Trace
import CallLibrary.Proofs.Command.Agreement
import CallLibrary.Proofs.Text.Occurrence
import CallLibrary.Proofs.Document.CommentLines
import CallLibrary.Proofs.Manifest.CommentLines
import CallLibrary.Proofs.Manifest.IdLayout
import CallLibrary.Proofs.Layout.Runs
import CallLibrary.Proofs.Solidity.Building
import CallLibrary.Proofs.Generator.Redeclaration
import CallLibrary.Proofs.Text.Places
import CallLibrary.Proofs.Manifest.Places
import CallLibrary.Proofs.Manifest.InputLists
