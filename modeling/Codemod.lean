import Codemod.Cli
import Codemod.Cli.Arguments
import Codemod.Cli.Style
import Codemod.Config
import Codemod.Config.Content
import Codemod.Config.Load
import Codemod.Config.Reader
import Codemod.Decimal.Binary64
import Codemod.Decimal.Shortest
import Codemod.Disk
import Codemod.Disk.Fault
import Codemod.Disk.Walk
import Codemod.Event
import Codemod.Event.Stream
import Codemod.Failure
import Codemod.Format
import Codemod.Format.Matcher
import Codemod.Json.Layout
import Codemod.Json.Pointer
import Codemod.Json.Reader
import Codemod.Json.Value
import Codemod.Json.Writer
import Codemod.Main
import Codemod.Markup.Builder
import Codemod.Markup.Builder.Body
import Codemod.Markup.Builder.Dispatch
import Codemod.Markup.Builder.Foreign
import Codemod.Markup.Builder.Formatting
import Codemod.Markup.Builder.Head
import Codemod.Markup.Builder.Outer
import Codemod.Markup.Builder.Select
import Codemod.Markup.Builder.Table
import Codemod.Markup.Category
import Codemod.Markup.Doctype
import Codemod.Markup.Draft
import Codemod.Markup.Foreign
import Codemod.Markup.Printer
import Codemod.Markup.Reader
import Codemod.Markup.Reference
import Codemod.Markup.Reference.Names
import Codemod.Markup.Token
import Codemod.Markup.Token.Lexer
import Codemod.Markup.Tree
import Codemod.Overlay
import Codemod.Overlay.Commit
import Codemod.Overlay.Indexed
import Codemod.Patch.Align
import Codemod.Patch.Compact
import Codemod.Patch.Hunk
import Codemod.Patch.Script
import Codemod.Patch.Unified
import Codemod.Path
import Codemod.Pattern
import Codemod.Pattern.Category
import Codemod.Pattern.CharSet
import Codemod.Pattern.Fold
import Codemod.Pattern.Letter
import Codemod.Pattern.Property
import Codemod.Pattern.Reader
import Codemod.Pattern.Script
import Codemod.Plugin
import Codemod.Proofs.Decimal.Binary64
import Codemod.Proofs.Disk.Project
import Codemod.Proofs.Disk.Route
import Codemod.Proofs.Disk.Tree
import Codemod.Proofs.Json.Pieces
import Codemod.Proofs.Json.Reading
import Codemod.Proofs.Json.RoundTrip
import Codemod.Proofs.Overlay.Commit
import Codemod.Proofs.Overlay.History
import Codemod.Proofs.Overlay.Lookup
import Codemod.Proofs.Overlay.NetChange
import Codemod.Proofs.Overlay.Valid
import Codemod.Proofs.Overlay.View
import Codemod.Proofs.Patch.Hunk
import Codemod.Proofs.Patch.Lines
import Codemod.Proofs.Patch.Script
import Codemod.Proofs.Patch.Unified
import Codemod.Proofs.Path
import Codemod.Proofs.Session.Course
import Codemod.Proofs.Session.Events
import Codemod.Proofs.Session.Untouched
import Codemod.Proofs.Text.Indent
import Codemod.Proofs.Text.LineEnding
import Codemod.Proofs.Text.Unbroken
import Codemod.Proofs.Updater
import Codemod.Rule.Compile
import Codemod.Session
import Codemod.Session.Setup
import Codemod.Session.Turn
import Codemod.Source.Grammar
import Codemod.Source.Grammar.Check
import Codemod.Source.Grammar.Expressions
import Codemod.Source.Grammar.Statements
import Codemod.Source.Grammar.Types
import Codemod.Source.Import
import Codemod.Source.Node
import Codemod.Source.Statement
import Codemod.Source.Token
import Codemod.Source.Token.Lexer
import Codemod.Source.Tree
import Codemod.Source.Unit
import Codemod.Text.Blank
import Codemod.Text.Bytes
import Codemod.Text.Indent
import Codemod.Text.LineEnding
import Codemod.Text.Lines
import Codemod.Text.Printable
import Codemod.Text.Quoted
import Codemod.Text.Ranges
import Codemod.Text.Search
import Codemod.Updater
import Codemod.Yaml.Node
import Codemod.Yaml.Reader
import Codemod.Yaml.Scalar
import Codemod.Yaml.Token
import Codemod.Yaml.Token.Lexer
import Codemod.Proofs.Path.Ancestors
import Codemod.Proofs.Session.Afresh
import Codemod.Proofs.Session.Skipping
import Codemod.Proofs.Disk.Folders
import Codemod.Proofs.Overlay.Interruption
import Codemod.Proofs.Disk.Touched
import Codemod.Proofs.Overlay.Rounds
import Codemod.Proofs.Session.Dispatch
import Codemod.Proofs.Session.Outcomes
import Codemod.Proofs.Session.Cancellation
import Codemod.Proofs.Disk.Walk
import Codemod.Proofs.Session.Snapshot
import Codemod.Proofs.Rule.Plugins
import Codemod.Proofs.Session.Deletion
import Codemod.Proofs.Rule.Meaning
import Codemod.Proofs.Cli.Consent
import Codemod.Proofs.Cli.Frame
import Codemod.Proofs.Cli.DiffColors
import Codemod.Proofs.Json.Members
import Codemod.Proofs.Json.Assignment
import Codemod.Proofs.Json.Lookup
import Codemod.Proofs.Event.Delivery
import Codemod.Proofs.Cli.Plan
import Codemod.Proofs.Text.Search
import Codemod.Proofs.Text.Lines
import Codemod.Proofs.Text.Bytes
import Codemod.Proofs.Json.Limits
import Codemod.Proofs.Json.Reassignment
import Codemod.Proofs.Rule.Replacement
import Codemod.Proofs.Rule.Convergence
import Codemod.Proofs.Source.Excerpts
import Codemod.Proofs.Source.Tokens
import Codemod.Proofs.Source.Nodes
import Codemod.Proofs.Source.Statements
import Codemod.Proofs.Markup.Elements
import Codemod.Proofs.Markup.StartTag
import Codemod.Proofs.Markup.Reference
import Codemod.Proofs.Markup.Renaming
import Codemod.Proofs.Source.Edits
import Codemod.Proofs.Rule.Renaming
import Codemod.Proofs.Source.Editing
import Codemod.Proofs.Disk.FileTree
import Codemod.Proofs.Disk.Listing
import Codemod.Proofs.Overlay.Listing
import Codemod.Proofs.Overlay.Spelling
import Codemod.Proofs.Overlay.Indexed
