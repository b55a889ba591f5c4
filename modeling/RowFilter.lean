import RowFilter.Query
import RowFilter.Session.Basic
import RowFilter.Table.Inspect
import RowFilter.Table.Stored
import RowFilter.Proofs.Outcome
import RowFilter.Proofs.Syntax.Grammar
import RowFilter.Proofs.Syntax.Soundness
import RowFilter.Proofs.Syntax.Completeness
import RowFilter.Proofs.Syntax.Layout
import RowFilter.Proofs.Syntax.Reading
import RowFilter.Proofs.Binding.Compile
import RowFilter.Proofs.Binding.Simulation
import RowFilter.Proofs.Binding.Unplaced
import RowFilter.Proofs.Token.Stream
import RowFilter.Proofs.Query.Agreement
import RowFilter.Proofs.Number.Order
import RowFilter.Proofs.Number.Decimal
import RowFilter.Proofs.Value.SortKey
import RowFilter.Proofs.Value.Promotion
import RowFilter.Proofs.Value.Reversal
import RowFilter.Proofs.Selection.Sort
import RowFilter.Proofs.Selection.RowOrder
import RowFilter.Proofs.Selection.Scan
import RowFilter.Proofs.Selection.Specification
import RowFilter.Proofs.Options
import RowFilter.Proofs.Session.Tracking
import RowFilter.Proofs.Syntax.Faults
import RowFilter.Proofs.Binding.Bound
import RowFilter.Proofs.Session.Run
import RowFilter.Proofs.Session.Duplicates
import RowFilter.Proofs.Session.History
import RowFilter.Proofs.Query.Identifier
import RowFilter.Proofs.Token.Append
import RowFilter.Proofs.Session.Joined
import RowFilter.Proofs.Evaluation.Monotone
import RowFilter.Proofs.Syntax.Height
import RowFilter.Proofs.Syntax.Tall
import RowFilter.Proofs.Table.Built
import RowFilter.Proofs.Evaluation.Relocation
import RowFilter.Proofs.Query.Layout
import RowFilter.Proofs.Text.AsciiCase
import RowFilter.Proofs.Token.Case
import RowFilter.Proofs.Token.Recased
import RowFilter.Proofs.Syntax.Spelling
import RowFilter.Proofs.Binding.Spelling
import RowFilter.Proofs.Query.Recased
import RowFilter.Proofs.Text.Like
import RowFilter.Table.Indexed
import RowFilter.Proofs.Table.Indexed
import RowFilter.Proofs.Table.History
import RowFilter.Proofs.Evaluation.Faults
import RowFilter.Proofs.Evaluation.Scoped
import RowFilter.Proofs.Binding.Scoped
import RowFilter.Proofs.Number.Digits
import RowFilter.Proofs.Calendar.Reading
import RowFilter.Proofs.Token.Lexeme
import RowFilter.Proofs.Syntax.Gives
import RowFilter.Proofs.Binding.Compiled
import RowFilter.Proofs.Expression.Literal
import RowFilter.Proofs.Expression.Text
import RowFilter.Proofs.Expression.Reading
import RowFilter.Proofs.Query.ReadBack
import RowFilter.Proofs.Value.MixedOrder
import RowFilter.Proofs.Number.Wrap
import RowFilter.Proofs.Value.Integral
import RowFilter.Proofs.Evaluation.Arithmetic
import RowFilter.Proofs.Number.Bits
import RowFilter.Proofs.Evaluation.Bitwise
import RowFilter.Proofs.Text.Blank
import RowFilter.Proofs.Evaluation.Converse
import RowFilter.Proofs.Evaluation.Membership
import RowFilter.Proofs.Value.Conversion
import RowFilter.Proofs.Number.DecimalText
import RowFilter.Proofs.Value.RoundTrip
import RowFilter.Proofs.Text.Occurrences
import RowFilter.Proofs.Text.Lowercase
import RowFilter.Proofs.Text.Folded
import RowFilter.Proofs.Evaluation.TextCall
import RowFilter.Proofs.Evaluation.Searches
import RowFilter.Proofs.Evaluation.ExactMatch
import RowFilter.Proofs.Evaluation.IgnoredCase
import RowFilter.Proofs.Token.Gap
import RowFilter.Proofs.Token.Front
import RowFilter.Proofs.Token.Entries
import RowFilter.Proofs.Token.Spacing
import RowFilter.Proofs.Query.Spacing
import RowFilter.Proofs.Token.Unexpected
import RowFilter.Proofs.Token.Numeral
import RowFilter.Proofs.Binding.Literal
import RowFilter.Proofs.Evaluation.Extreme
import RowFilter.Proofs.Selection.Reports
import RowFilter.Proofs.Syntax.PostOrder
import RowFilter.Proofs.Syntax.Walk
import RowFilter.Proofs.Calendar.Moment
import RowFilter.Proofs.Evaluation.DateCall
import RowFilter.Proofs.Calendar.Week
import RowFilter.Proofs.Evaluation.DatePart
import RowFilter.Proofs.Session.IdFields
