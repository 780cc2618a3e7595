import Reshape.Decimal.Fixed
import Reshape.Decimal.Reading
import Reshape.Text.Blank
import Reshape.Json.Reader
import Reshape.Json.Writer
import Reshape.Value.Order
import Reshape.Record.Path
import Reshape.Digest.Encoding
import Reshape.Unicode.Case
import Reshape.Formula.Reader
import Reshape.Formula.Evaluate
import Reshape.Condition.Reader
import Reshape.Condition.Evaluate
import Reshape.Calendar.Reading
import Reshape.Calendar.Rendering
import Reshape.Collection
import Reshape.Diagnostic
import Reshape.Settings
import Reshape.Pattern.Reader
import Reshape.Pattern.Replacement
import Reshape.Operator.Action
import Reshape.Pipeline.Manifest
import Reshape.Main
import Reshape.Proofs.Pipeline.Completion
import Reshape.Proofs.Pipeline.Composition
import Reshape.Proofs.Pipeline.Output
import Reshape.Proofs.Operator.Masking
import Reshape.Proofs.Decimal.Equality
import Reshape.Proofs.Decimal.Order
import Reshape.Proofs.Decimal.Exact
import Reshape.Proofs.Value.Alike
import Reshape.Proofs.Value.SortOrder
import Reshape.Proofs.Operator.Argument
import Reshape.Proofs.Operator.Respelling
import Reshape.Proofs.Pipeline.Spelling
import Reshape.Proofs.Digest.Encoding
import Reshape.Proofs.Formula.Grammar
import Reshape.Proofs.Operator.Classes
import Reshape.Proofs.Operator.Grouping
import Reshape.Proofs.Operator.Sorting
import Reshape.Proofs.Operator.Sums
import Reshape.Proofs.Operator.Additive
import Reshape.Proofs.Operator.Locality
import Reshape.Proofs.Record.Path
import Reshape.Proofs.Record.Fields
import Reshape.Proofs.Operator.Projection
import Reshape.Proofs.Operator.Flattening
import Reshape.Proofs.Pipeline.Independence
import Reshape.Proofs.Pipeline.Rebuilding
import Reshape.Proofs.Value.Comparison
import Reshape.Proofs.Text.Trimming
import Reshape.Proofs.Text.LowerCase
import Reshape.Proofs.Condition.Written
import Reshape.Proofs.Condition.RoundTrip
import Reshape.Proofs.Condition.TextTests
import Reshape.Proofs.Decimal.Rounding
import Reshape.Proofs.Decimal.Reading
import Reshape.Proofs.Decimal.Shortest
import Reshape.Proofs.Decimal.RoundTrip
import Reshape.Proofs.Formula.Written
import Reshape.Proofs.Formula.Quoting
import Reshape.Proofs.Decimal.Infinite
import Reshape.Proofs.Formula.Finiteness
import Reshape.Proofs.Text.FinalSigma
import Reshape.Proofs.Condition.OwnParts
import Reshape.Proofs.Formula.Fields
import Reshape.Proofs.Operator.Computing
import Reshape.Proofs.Operator.Unwinding
import Reshape.Proofs.Operator.Deduplication
import Reshape.Proofs.Operator.Redaction
import Reshape.Proofs.Text.Joining
import Reshape.Proofs.Operator.Separators
import Reshape.Proofs.Operator.Selection
import Reshape.Proofs.Operator.Renaming
import Reshape.Proofs.Pipeline.FlattenSeparator
import Reshape.Proofs.Operator.WholeNumbers
import Reshape.Proofs.Operator.Numbering
import Reshape.Proofs.Operator.Editing
import Reshape.Proofs.Operator.FixedWidth
import Reshape.Proofs.Operator.Splitting
import Reshape.Proofs.Text.Cutting
import Reshape.Proofs.Pipeline.Statistics
import Reshape.Proofs.CommandLine.Failure
import Reshape.Proofs.Pattern.Groups
import Reshape.Proofs.Pattern.Replacement
import Reshape.Proofs.Calendar.RoundTrip
import Reshape.Proofs.Pipeline.Transitions
import Reshape.Proofs.Operator.FlatRecords
import Reshape.Proofs.Text.Thousands
import Reshape.Proofs.Operator.NumberForms
import Reshape.Proofs.Calendar.Patterns
import Reshape.Proofs.Calendar.Days
