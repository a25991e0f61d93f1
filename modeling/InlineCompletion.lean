import InlineCompletion.Completion
import InlineCompletion.Ghost.Reach
import InlineCompletion.Records
import InlineCompletion.Settings.Files
import InlineCompletion.Verbosity
import InlineCompletion.Proofs.Ghost.Calls
import InlineCompletion.Proofs.Ghost.Control
import InlineCompletion.Proofs.Ghost.Run
import InlineCompletion.Proofs.Ghost.Course
import InlineCompletion.Proofs.Ghost.SingleFlight
import InlineCompletion.Proofs.Ghost.LastEdit
import InlineCompletion.Proofs.Ghost.Ledger
import InlineCompletion.Proofs.Ghost.Provenance
import InlineCompletion.Proofs.Text.Search
import InlineCompletion.Proofs.Text.Trim
import InlineCompletion.Proofs.Spacing.NormalForm
import InlineCompletion.Proofs.Echo.Statement
import InlineCompletion.Proofs.Spacing.Operator
import InlineCompletion.Proofs.Echo.Accounting
import InlineCompletion.Proofs.Echo.RepeatedPrefix
import InlineCompletion.Proofs.Ghost.Phases
import InlineCompletion.Proofs.Ghost.Escalation
import InlineCompletion.Proofs.Ghost.Commands
import InlineCompletion.Proofs.Ghost.LastView
import InlineCompletion.Proofs.Ghost.QuietPeriod
import InlineCompletion.Proofs.Completion.PromptPath
import InlineCompletion.Proofs.Spacing.Equivalence
import InlineCompletion.Proofs.Spacing.Reading
import InlineCompletion.Proofs.Spacing.Respacing
import InlineCompletion.Proofs.Spacing.Stability
import InlineCompletion.Proofs.Echo.Removals
import InlineCompletion.Proofs.Ghost.Expansion
import InlineCompletion.Proofs.Spacing.Passes
import InlineCompletion.Proofs.Text.Marks
import InlineCompletion.Proofs.Completion.Fragment
import InlineCompletion.Proofs.Spacing.Absorption
import InlineCompletion.Proofs.Echo.Unmatched
import InlineCompletion.Proofs.Decimal.WholeDouble
import InlineCompletion.Proofs.Json.Record
import InlineCompletion.Proofs.Json.WellFormed
import InlineCompletion.Proofs.Candidate.Delivery
import InlineCompletion.Proofs.Candidate.SortKey
import InlineCompletion.Proofs.Completion.Cursor
import InlineCompletion.Proofs.Settings.Lookup
import InlineCompletion.Proofs.Completion.TwoPaths
import InlineCompletion.Proofs.Json.RoundTrip
import InlineCompletion.Proofs.Settings.Written
import InlineCompletion.Proofs.Ghost.Rotation
import InlineCompletion.Proofs.Ghost.Debounce
