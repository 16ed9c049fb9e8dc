import FormulaField.Calendar.Date
import FormulaField.Calendar.Instant
import FormulaField.Calendar.Reading
import FormulaField.Calendar.Writing
import FormulaField.CommandLine.Arguments
import FormulaField.CommandLine.Command
import FormulaField.CommandLine.Failure
import FormulaField.CommandLine.Listing
import FormulaField.CommandLine.Run
import FormulaField.Dependency.Cycle
import FormulaField.Dependency.Graph
import FormulaField.Dependency.Order
import FormulaField.DisplayFormat
import FormulaField.Formula.Basic
import FormulaField.Formula.Cursor
import FormulaField.Formula.Evaluation
import FormulaField.Formula.ParseError
import FormulaField.Formula.Parser
import FormulaField.Formula.Printer
import FormulaField.Function.Arithmetic
import FormulaField.Function.Dates
import FormulaField.Function.Inspection
import FormulaField.Function.Logic
import FormulaField.Function.Signature
import FormulaField.Function.Table
import FormulaField.Function.Texts
import FormulaField.Json.Basic
import FormulaField.Json.Reader
import FormulaField.Json.Writer
import FormulaField.Number.Binary
import FormulaField.Number.Decimal
import FormulaField.Number.Layout
import FormulaField.Number.Power
import FormulaField.Pattern.AgeTable
import FormulaField.Pattern.Automaton
import FormulaField.Pattern.BreakTable
import FormulaField.Pattern.ByteRange
import FormulaField.Pattern.CategoryTable
import FormulaField.Pattern.CharSet
import FormulaField.Pattern.CodeRange
import FormulaField.Pattern.Expression
import FormulaField.Pattern.Program
import FormulaField.Pattern.Property
import FormulaField.Pattern.PropertyTable
import FormulaField.Pattern.Reader
import FormulaField.Pattern.ScriptExtensionTable
import FormulaField.Pattern.ScriptTable
import FormulaField.Pattern.Search
import FormulaField.Pattern.Shape
import FormulaField.Pattern.Tree
import FormulaField.Pattern.WordTable
import FormulaField.Provenance
import FormulaField.Record
import FormulaField.Record.Json
import FormulaField.Registry.Basic
import FormulaField.Registry.Calculation
import FormulaField.Registry.Spec
import FormulaField.Text.Case
import FormulaField.Text.CaseTables
import FormulaField.Text.DigitTable
import FormulaField.Text.Property
import FormulaField.Text.PropertyTables
import FormulaField.Text.Runs
import FormulaField.Text.Words
import FormulaField.Value
import FormulaField.Main
import FormulaField.Proofs.Dependency.CycleSearch
import FormulaField.Proofs.Dependency.CalculationOrder
import FormulaField.Proofs.Dependency.Dependents
import FormulaField.Proofs.Dependency.Cycles
import FormulaField.Proofs.Dependency.Traversal
import FormulaField.Proofs.Dependency.Changes
import FormulaField.Proofs.Registry.Invariant
import FormulaField.Proofs.Formula.Grammar
import FormulaField.Proofs.Formula.Soundness
import FormulaField.Proofs.Formula.Agreement
import FormulaField.Proofs.Registry.Batch
import FormulaField.Proofs.Formula.TokenRuns
import FormulaField.Proofs.Formula.Completeness
import FormulaField.Proofs.Formula.Height
import FormulaField.Proofs.Formula.NestingBound
import FormulaField.Proofs.Number.Bits
import FormulaField.Proofs.Number.Nearest
import FormulaField.Proofs.Number.Decimal
import FormulaField.Proofs.Number.Packing
import FormulaField.Proofs.Number.Products
import FormulaField.Proofs.Number.Text
import FormulaField.Proofs.Number.Comparison
import FormulaField.Proofs.Text.Upper
import FormulaField.Proofs.Formula.Canonical
import FormulaField.Proofs.Formula.Failure
import FormulaField.Proofs.Formula.TooDeep
import FormulaField.Proofs.Formula.CanonicalText
import FormulaField.Proofs.Formula.PrintedTrees
import FormulaField.Proofs.Formula.Derivation
import FormulaField.Proofs.Formula.References
import FormulaField.Proofs.Formula.Beginnings
import FormulaField.Proofs.Formula.Errors
import FormulaField.Proofs.Formula.Dependencies
import FormulaField.Proofs.Formula.Visibility
import FormulaField.Proofs.Registry.Recalculation
import FormulaField.Proofs.Entries
import FormulaField.Proofs.Registry.Import
import FormulaField.Proofs.Json.Strings
import FormulaField.Proofs.Json.Numbers
import FormulaField.Proofs.Number.Shortest
import FormulaField.Proofs.Json.Decimals
import FormulaField.Proofs.Json.Documents
import FormulaField.Proofs.Registry.Export
import FormulaField.Proofs.Calendar.Days
import FormulaField.Proofs.Calendar.Texts
import FormulaField.Proofs.Calendar.DisplayedTexts
import FormulaField.Proofs.Calendar.Proper
import FormulaField.Proofs.Calendar.Range
import FormulaField.Proofs.Json.Range
import FormulaField.Proofs.Record.Saved
import FormulaField.Proofs.Record.Durable
import FormulaField.Proofs.CommandLine.SavedOutput
import FormulaField.Proofs.Registry.Schedules
import FormulaField.Proofs.Registry.Locality
import FormulaField.Proofs.CommandLine.EvaluatedField
import FormulaField.Proofs.Safety.Texts
import FormulaField.Proofs.Safety.Dates
import FormulaField.Proofs.Safety.Instants
import FormulaField.Proofs.Safety.Functions
import FormulaField.Proofs.Safety.Evaluation
import FormulaField.Proofs.Formula.OperatorFunctions
import FormulaField.Proofs.Formula.Checks
import FormulaField.Proofs.Text.Collapse
import FormulaField.Proofs.Formula.Collapsed
import FormulaField.Proofs.Text.LetterCase
import FormulaField.Proofs.Formula.Recased
import FormulaField.Proofs.Formula.LetterCase
import FormulaField.Proofs.Value.LeadingNumeral
import FormulaField.Proofs.Value.NumberText
import FormulaField.Proofs.Text.ByteOrder
import FormulaField.Proofs.Record.Accepted
import FormulaField.Proofs.Record.RoundTrip
import FormulaField.Proofs.Number.WholeNumbers
import FormulaField.Proofs.Function.Periods
import FormulaField.Proofs.Function.FixedPeriods
import FormulaField.Proofs.Calendar.Months
import FormulaField.Proofs.Function.CalendarPeriods
import FormulaField.Proofs.Value.DisplayedNumbers
import FormulaField.Proofs.Number.Order
import FormulaField.Proofs.Number.Quotients
import FormulaField.Proofs.Number.Infinities
import FormulaField.Proofs.Number.Powers
import FormulaField.Proofs.Value.Counts
import FormulaField.Proofs.Value.DisplayedAmounts
import FormulaField.Proofs.Function.Extremes
import FormulaField.Proofs.Function.Occurrences
import FormulaField.Proofs.Function.Rounding
import FormulaField.Proofs.Function.Parts
import FormulaField.Proofs.Record.Resolution
import FormulaField.Proofs.CommandLine.ListedFields
import FormulaField.Proofs.Pattern.PlainPatterns
import FormulaField.Proofs.Pattern.RowSearch
import FormulaField.Proofs.Function.Replacements
import FormulaField.Proofs.Value.DigitGroups
import FormulaField.Proofs.Value.InstantNumbers
import FormulaField.Proofs.Descent.Program
import FormulaField.Proofs.Descent.Procedures
import FormulaField.Proofs.Descent.Scanning
import FormulaField.Proofs.Descent.Outcomes
import FormulaField.Proofs.Descent.Tokens
import FormulaField.Proofs.Descent.Agreement
import FormulaField.Proofs.Descent.Discipline
