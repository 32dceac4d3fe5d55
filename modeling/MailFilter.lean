import MailFilter.Calendar.Date
import MailFilter.Calendar.Instant
import MailFilter.Calendar.MailDate
import MailFilter.Calendar.Timestamp
import MailFilter.Files.FileTree
import MailFilter.Files.Path
import MailFilter.Json.Decoder
import MailFilter.Json.Lexical
import MailFilter.Json.Skip
import MailFilter.Main
import MailFilter.Matching.Check
import MailFilter.Matching.Matcher
import MailFilter.Matching.Runner
import MailFilter.Message.CommandTemplate
import MailFilter.Message.Headers
import MailFilter.Message.JsonFormat
import MailFilter.Message.Message
import MailFilter.Message.Source
import MailFilter.Message.TableFormat
import MailFilter.Numeric.BinaryWord
import MailFilter.Numeric.Ratio
import MailFilter.Program.Arguments
import MailFilter.Program.Command
import MailFilter.Program.Matching
import MailFilter.Program.Rules
import MailFilter.Program.Run
import MailFilter.Program.Session
import MailFilter.QuickSearch.Alias
import MailFilter.QuickSearch.Expansion
import MailFilter.QuickSearch.Search
import MailFilter.Regex.CharSet
import MailFilter.Regex.NamedSet
import MailFilter.Regex.Parser
import MailFilter.Regex.Pattern
import MailFilter.Report.Lines
import MailFilter.Report.Style
import MailFilter.Rule.Condition
import MailFilter.Rule.Criterion
import MailFilter.Rule.Parser
import MailFilter.Rule.Printer
import MailFilter.Rule.Quoting
import MailFilter.Rule.SyntaxError
import MailFilter.Rule.Token
import MailFilter.Rule.TokenStream
import MailFilter.RuleSet.Classifier
import MailFilter.RuleSet.Name
import MailFilter.RuleSet.RuleSet
import MailFilter.Settings.Environment
import MailFilter.Settings.Settings
import MailFilter.Settings.SettingsFault
import MailFilter.Settings.SettingsFile
import MailFilter.Shell.Call
import MailFilter.Shell.Command
import MailFilter.Shell.Interpreter
import MailFilter.Shell.Machine
import MailFilter.Shell.Programs
import MailFilter.Shell.Run
import MailFilter.Shell.Sum
import MailFilter.Shell.Token
import MailFilter.Store.RuleFile
import MailFilter.Store.RuleStore
import MailFilter.Store.StoreFault
import MailFilter.Store.StoreFormat
import MailFilter.Store.StoredRule
import MailFilter.Text.Ascii
import MailFilter.Text.Blank
import MailFilter.Text.Decimal
import MailFilter.Text.Delimited
import MailFilter.Text.Lines
import MailFilter.Text.Reader
import MailFilter.Text.Substring
import MailFilter.Text.Utf8
import MailFilter.Toml.Document
import MailFilter.Toml.Lexical
import MailFilter.Toml.Printer
import MailFilter.Toml.Scalar
import MailFilter.Toml.Value
import MailFilter.Unicode.CaseData
import MailFilter.Unicode.CategoryData
import MailFilter.Unicode.Folding
import MailFilter.Unicode.Lowercase
import MailFilter.Unicode.PropertyData
import MailFilter.Unicode.RunTable
import MailFilter.Unicode.ScriptData
import MailFilter.Proofs.Spelling
import MailFilter.Proofs.Grammar
import MailFilter.Proofs.RoundTrip
import MailFilter.Proofs.Expansion
import MailFilter.Proofs.AliasGrammar
import MailFilter.Proofs.CanonicalText
import MailFilter.Proofs.SetDocument
import MailFilter.Proofs.Saving
import MailFilter.Proofs.StoreInvariant
import MailFilter.Proofs.Verdict
import MailFilter.Proofs.Evaluation
import MailFilter.Proofs.SideBySide
import MailFilter.Proofs.EntryPoints
import MailFilter.Proofs.Reading
import MailFilter.Proofs.TomlText
import MailFilter.Proofs.TomlDocument
import MailFilter.Proofs.SettingsDocument
import MailFilter.Proofs.Timestamps
import MailFilter.Proofs.StoreDocument
import MailFilter.Proofs.Requests
import MailFilter.Proofs.Calls
import MailFilter.Proofs.Transfer
import MailFilter.Proofs.Registry
import MailFilter.Proofs.CommandFiles
import MailFilter.Proofs.Imports
import MailFilter.Proofs.UseCounts
import MailFilter.Proofs.Histories
import MailFilter.Proofs.SettingsChange
import MailFilter.Proofs.LetterCase
import MailFilter.Proofs.PatternFaults
import MailFilter.Proofs.ImportFrame
import MailFilter.Proofs.ImportLosses
import MailFilter.Proofs.Duality
import MailFilter.Proofs.Queries
import MailFilter.Proofs.ViablePrefixes
import MailFilter.Proofs.FaultPlaces
import MailFilter.Proofs.Joining
import MailFilter.Proofs.SetReading
import MailFilter.Proofs.WiderFields
import MailFilter.Proofs.HeaderLookup
import MailFilter.Proofs.TableColumns
import MailFilter.Proofs.ColumnOrder
import MailFilter.Proofs.SettingsRuns
import MailFilter.Proofs.SettingsLaws
import MailFilter.Proofs.FirstMatch
import MailFilter.Proofs.Templates
import MailFilter.Proofs.QuotedOperands
import MailFilter.Proofs.Measures
import MailFilter.Proofs.RepeatedUse
import MailFilter.Proofs.Lookahead
import MailFilter.Proofs.Spans
