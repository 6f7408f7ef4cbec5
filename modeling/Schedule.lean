import Schedule.Main
import Schedule.Proofs.Grammar
import Schedule.Proofs.Grammar.Start
import Schedule.Proofs.Grammar.Unique
import Schedule.Proofs.Outcome
import Schedule.Proofs.Reading.Literal
import Schedule.Proofs.Reading.Document
import Schedule.Proofs.RuleGroup.Entries
import Schedule.Proofs.RuleGroup.Normal
import Schedule.Proofs.RuleGroup.Wrap
import Schedule.Proofs.RuleGroup.Literal
import Schedule.Proofs.Numeral
import Schedule.Proofs.WellFormed
import Schedule.Proofs.RuleGroup.Sound
import Schedule.Proofs.TokenCase
import Schedule.Proofs.Reading.Relabel
import Schedule.Proofs.Tokenize
import Schedule.Proofs.Layout
import Schedule.Proofs.Segmentation
import Schedule.Proofs.Erasure
import Schedule.Proofs.Printing
import Schedule.Proofs.Printing.Derivation
import Schedule.Proofs.Printing.Document
import Schedule.Proofs.RuleGroup.Printing
import Schedule.Proofs.TokenPlace
import Schedule.Proofs.Reading.Blame
import Schedule.Proofs.RuleGroup.Blame
import Schedule.Proofs.Failure
import Schedule.Proofs.Diagnostic
import Schedule.Proofs.Report
import Schedule.Proofs.Printing.RoundTrip
import Schedule.Proofs.RuleGroup.Relabel
import Schedule.Proofs.RuleGroup.Interleaving
import Schedule.Proofs.Surface
import Schedule.Proofs.Nesting
import Schedule.Proofs.Concatenation
import Schedule.Proofs.RuleGroup.Every
import Schedule.Proofs.Session
import Schedule.Proofs.RangeText
import Schedule.Proofs.RuleGroup.Table
import Schedule.Proofs.Mapping
import Schedule.Proofs.Config.Merge
import Schedule.Proofs.Config.Load
import Schedule.Proofs.Files
import Schedule.Proofs.Command
import Schedule.Proofs.RuleGroup.Meaning
import Schedule.Proofs.Reading.Budget
import Schedule.Proofs.Reading.Lookahead
import Schedule.Proofs.Reading.Onward
import Schedule.Proofs.Reading.Parentheses
import Schedule.Proofs.Spacing
import Schedule.Proofs.Message
import Schedule.Proofs.Report.Lines
import Schedule.Proofs.Config.Problems
import Schedule.Proofs.Config.IntegerText
import Schedule.Proofs.Utf8
import Schedule.Proofs.Yaml.Fault
import Schedule.Proofs.Config.Source
import Schedule.Proofs.RuleGroup.Store
import Schedule.Proofs.Reading.Cursor
import Schedule.Proofs.Diagnostic.Caret
