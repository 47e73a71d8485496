import TreeSift.Command.Arguments
import TreeSift.Command.Failure
import TreeSift.Command.Grammar
import TreeSift.Command.Line
import TreeSift.Command.Run
import TreeSift.Command.Word
import TreeSift.Decimal.Based
import TreeSift.Decimal.Binary64
import TreeSift.Decimal.Integer
import TreeSift.Decimal.Real
import TreeSift.Decimal.Shortest
import TreeSift.Disk
import TreeSift.Document.Basic
import TreeSift.Document.Lexer
import TreeSift.Document.Moment
import TreeSift.Document.Node
import TreeSift.Document.Pieces
import TreeSift.Document.Place
import TreeSift.Document.Plain
import TreeSift.Document.Scalar
import TreeSift.Document.Scalars
import TreeSift.Document.Shared
import TreeSift.Document.Token
import TreeSift.Document.Value
import TreeSift.Encoding
import TreeSift.Encoding.Parts
import TreeSift.Glob
import TreeSift.Journal.Basic
import TreeSift.Journal.Context
import TreeSift.Journal.Level
import TreeSift.Keyed
import TreeSift.Main
import TreeSift.PathSet.Algebra
import TreeSift.PathSet.Basic
import TreeSift.PathSet.Change
import TreeSift.Pattern
import TreeSift.Proofs.Command.Output
import TreeSift.Proofs.Command.Records
import TreeSift.Proofs.Command.RuleFiles
import TreeSift.Proofs.Document.Faults
import TreeSift.Proofs.Document.Shared
import TreeSift.Proofs.Fallible
import TreeSift.Proofs.Glob
import TreeSift.Proofs.Glob.Cutting
import TreeSift.Proofs.Glob.Expression
import TreeSift.Proofs.Journal.Fields
import TreeSift.Proofs.Journal.Merging
import TreeSift.Proofs.Journal.Writing
import TreeSift.Proofs.PathSet.Behind
import TreeSift.Proofs.PathSet.Gathering
import TreeSift.Proofs.PathSet.History
import TreeSift.Proofs.PathSet.Operators
import TreeSift.Proofs.PathSet.PlainSets
import TreeSift.Proofs.PathSet.Spellings
import TreeSift.Proofs.Pattern.Composition
import TreeSift.Proofs.Pattern.NormalForm
import TreeSift.Proofs.Regex.ReadAtoms
import TreeSift.Proofs.Regex.ReadParts
import TreeSift.Proofs.Regex.ReadSequences
import TreeSift.Proofs.Regex.SideBySide
import TreeSift.Proofs.Regex.Turned
import TreeSift.Proofs.Regex.TurnedText
import TreeSift.Proofs.Rules.Composition
import TreeSift.Proofs.Rules.Delegation
import TreeSift.Proofs.Rules.Effects
import TreeSift.Proofs.Rules.FailedLine
import TreeSift.Proofs.Rules.Grammar
import TreeSift.Proofs.Rules.Held
import TreeSift.Proofs.Rules.LastRule
import TreeSift.Proofs.Rules.Nesting
import TreeSift.Proofs.Rules.StructuredFile
import TreeSift.Proofs.Rules.TextFile
import TreeSift.Proofs.Search.Blocks
import TreeSift.Proofs.Search.Candidates
import TreeSift.Proofs.Search.Explore
import TreeSift.Proofs.Search.Literal
import TreeSift.Proofs.Search.OnPattern
import TreeSift.Proofs.Search.OnePass
import TreeSift.Proofs.Search.Opening
import TreeSift.Proofs.Search.OwnPath
import TreeSift.Proofs.Search.Regex
import TreeSift.Proofs.Search.Separators
import TreeSift.Proofs.Search.Spelling
import TreeSift.Proofs.Search.Success
import TreeSift.Proofs.Search.Wildcard
import TreeSift.Proofs.Settings.FileFailures
import TreeSift.Proofs.Settings.Frame
import TreeSift.Proofs.Settings.Layers
import TreeSift.Proofs.Settings.Refused
import TreeSift.Proofs.Settings.Variables
import TreeSift.Proofs.Settings.Writing
import TreeSift.Proofs.Text.Blank
import TreeSift.Proofs.Text.Case
import TreeSift.Proofs.Text.Lines
import TreeSift.Proofs.Text.Lower
import TreeSift.Proofs.Text.Pieces
import TreeSift.Proofs.Text.Runs
import TreeSift.Proofs.Text.Slash
import TreeSift.Proofs.Tree.Failure
import TreeSift.Proofs.Tree.Opening
import TreeSift.Proofs.Tree.Paths
import TreeSift.Proofs.Tree.Survey
import TreeSift.Proofs.Tree.Traversal
import TreeSift.Proofs.Tree.WellFormed
import TreeSift.Regex.Basic
import TreeSift.Regex.CharTest
import TreeSift.Regex.Expression
import TreeSift.Regex.Fault
import TreeSift.Regex.Matcher
import TreeSift.Regex.Reader
import TreeSift.Regex.Source
import TreeSift.Regex.Syntax
import TreeSift.Rules.File
import TreeSift.Rules.Rule
import TreeSift.Rules.Run
import TreeSift.Rules.Session
import TreeSift.Search.Basic
import TreeSift.Search.Error
import TreeSift.Search.Failure
import TreeSift.Search.Relative
import TreeSift.Search.Request
import TreeSift.Search.Target
import TreeSift.Search.Wildcard
import TreeSift.Settings.Basic
import TreeSift.Settings.Change
import TreeSift.Settings.Environment
import TreeSift.Settings.File
import TreeSift.Settings.Layer
import TreeSift.Settings.Logging
import TreeSift.Text.Base64
import TreeSift.Text.Based
import TreeSift.Text.Blank
import TreeSift.Text.CharacterName
import TreeSift.Text.CharacterWord
import TreeSift.Text.Fold
import TreeSift.Text.Identifier
import TreeSift.Text.Letter
import TreeSift.Text.Likeness
import TreeSift.Text.Line
import TreeSift.Text.Lower
import TreeSift.Text.Numeral
import TreeSift.Text.Pieces
import TreeSift.Text.Printable
import TreeSift.Text.Quoted
import TreeSift.Text.Ranges
import TreeSift.Text.Upper
import TreeSift.Tree.Basic
import TreeSift.Tree.Listing
import TreeSift.Tree.Resolve
import TreeSift.Tree.Walk
