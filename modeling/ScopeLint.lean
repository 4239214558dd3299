import ScopeLint.Classifier
import ScopeLint.Classifier.Lexical
import ScopeLint.CommandLine.Arguments
import ScopeLint.CommandLine.Help
import ScopeLint.CommandLine.Run
import ScopeLint.Decode.Diagnostic
import ScopeLint.Decode.Json
import ScopeLint.Decode.Reader
import ScopeLint.Decode.Settings
import ScopeLint.Decode.Table
import ScopeLint.Decode.Yaml
import ScopeLint.Diagnostic
import ScopeLint.Document
import ScopeLint.Duration
import ScopeLint.Encode.Diagnostic
import ScopeLint.Encode.Settings
import ScopeLint.Error
import ScopeLint.Family
import ScopeLint.Files
import ScopeLint.Files.Expansion
import ScopeLint.Files.Glob
import ScopeLint.Files.Tree
import ScopeLint.Json
import ScopeLint.Json.Read
import ScopeLint.Json.Write
import ScopeLint.Linter
import ScopeLint.Main
import ScopeLint.Output.Color
import ScopeLint.Output.Formatter
import ScopeLint.Output.Json
import ScopeLint.Output.Text
import ScopeLint.Output.Timings
import ScopeLint.Pattern
import ScopeLint.Pattern.Bracket
import ScopeLint.Pattern.CharSet
import ScopeLint.Pattern.Escape
import ScopeLint.Pattern.Flags
import ScopeLint.Pattern.Node
import ScopeLint.Pattern.Outlook
import ScopeLint.Pattern.Property
import ScopeLint.Pattern.Read
import ScopeLint.Pattern.Walk
import ScopeLint.Pattern.Weight
import ScopeLint.Position
import ScopeLint.Proofs.Acceptance
import ScopeLint.Proofs.Accounting
import ScopeLint.Proofs.Alternatives
import ScopeLint.Proofs.Balance
import ScopeLint.Proofs.Borders
import ScopeLint.Proofs.BuiltIn
import ScopeLint.Proofs.Capitals
import ScopeLint.Proofs.CasingFixes
import ScopeLint.Proofs.Coordinates
import ScopeLint.Proofs.Escaping
import ScopeLint.Proofs.Excerpts
import ScopeLint.Proofs.Extraction
import ScopeLint.Proofs.FindingScopes
import ScopeLint.Proofs.FixedNames
import ScopeLint.Proofs.HiddenSuggestions
import ScopeLint.Proofs.HiddenText
import ScopeLint.Proofs.Highlights
import ScopeLint.Proofs.InPlace
import ScopeLint.Proofs.Independence
import ScopeLint.Proofs.Inquiry
import ScopeLint.Proofs.JsonText
import ScopeLint.Proofs.KeywordLists
import ScopeLint.Proofs.KeywordMatches
import ScopeLint.Proofs.Layout
import ScopeLint.Proofs.LineEnds
import ScopeLint.Proofs.LineIndex
import ScopeLint.Proofs.Matching
import ScopeLint.Proofs.MeanTimes
import ScopeLint.Proofs.Merging
import ScopeLint.Proofs.Misnaming
import ScopeLint.Proofs.Neighbours
import ScopeLint.Proofs.Painting
import ScopeLint.Proofs.PairPatterns
import ScopeLint.Proofs.Pairing
import ScopeLint.Proofs.PartSeams
import ScopeLint.Proofs.PatternSeams
import ScopeLint.Proofs.QuotedStrings
import ScopeLint.Proofs.ReadBack
import ScopeLint.Proofs.Regions
import ScopeLint.Proofs.Replacement
import ScopeLint.Proofs.Reported
import ScopeLint.Proofs.Respelling
import ScopeLint.Proofs.RootScope
import ScopeLint.Proofs.RoundTrip
import ScopeLint.Proofs.RuleChoice
import ScopeLint.Proofs.SameCode
import ScopeLint.Proofs.Scanning
import ScopeLint.Proofs.Shadowing
import ScopeLint.Proofs.SharedSink
import ScopeLint.Proofs.Splicing
import ScopeLint.Proofs.Strategies
import ScopeLint.Proofs.Suggestions
import ScopeLint.Proofs.Timekeeping
import ScopeLint.Proofs.Totals
import ScopeLint.Proofs.Undisturbed
import ScopeLint.Proofs.Variables
import ScopeLint.Proofs.Verdicts
import ScopeLint.Proofs.Weight
import ScopeLint.Proofs.WholeWords
import ScopeLint.Report
import ScopeLint.Rule.Brackets
import ScopeLint.Rule.Casing
import ScopeLint.Rule.Context
import ScopeLint.Rule.Naming
import ScopeLint.Rule.Spacing
import ScopeLint.Scope
import ScopeLint.Settings
import ScopeLint.Settings.Load
import ScopeLint.Severity
import ScopeLint.Summary
import ScopeLint.Table
import ScopeLint.Text.Attribute
import ScopeLint.Text.Blank
import ScopeLint.Text.CaseRun
import ScopeLint.Text.Category
import ScopeLint.Text.Edition
import ScopeLint.Text.Fold
import ScopeLint.Text.Hexadecimal
import ScopeLint.Text.Letter
import ScopeLint.Text.Lower
import ScopeLint.Text.Number
import ScopeLint.Text.Ranges
import ScopeLint.Text.Recent
import ScopeLint.Text.Script
import ScopeLint.Text.Split
import ScopeLint.Text.Utf8
import ScopeLint.Text.Word
import ScopeLint.Yaml
import ScopeLint.Yaml.Anchors
import ScopeLint.Yaml.BlockScalar
import ScopeLint.Yaml.Cursor
import ScopeLint.Yaml.Directive
import ScopeLint.Yaml.Layout
import ScopeLint.Yaml.Read
import ScopeLint.Yaml.Scalar
import ScopeLint.Yaml.Tag
import ScopeLint.Yaml.Token
import ScopeLint.Yaml.Token.Read
