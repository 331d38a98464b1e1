import RecordFilter.Conversion
import RecordFilter.Criteria.Properties
import RecordFilter.Culture.Json
import RecordFilter.FilterCache
import RecordFilter.RecordType.NameTable
import RecordFilter.Validity
import RecordFilter.Proofs.Double.Shortest
import RecordFilter.Proofs.Text.Digits
import RecordFilter.Proofs.Double.Literal
import RecordFilter.Proofs.Text.Plain
import RecordFilter.Proofs.Calendar.Written
import RecordFilter.Proofs.Condition.Outcome
import RecordFilter.Proofs.Condition.Soundness
import RecordFilter.Proofs.Criteria.Text
import RecordFilter.Proofs.FilterCache.Runs
import RecordFilter.Proofs.OperatorTree.RoundTrip
import RecordFilter.Proofs.Grammar.Position
import RecordFilter.Proofs.Criteria.Blanks
import RecordFilter.Proofs.Criteria.Validity
import RecordFilter.Proofs.CompactArray.Cycle
import RecordFilter.Proofs.Interval.Coverage
import RecordFilter.Proofs.Criteria.Produced
import RecordFilter.Proofs.CompactArray.Meaning
import RecordFilter.Proofs.OperatorTree.Json
import RecordFilter.Proofs.Criteria.Properties
import RecordFilter.Proofs.Condition.Reads
import RecordFilter.Proofs.RecordType.Growth
import RecordFilter.Proofs.Condition.Growth
import RecordFilter.Proofs.OperatorTree.Stable
import RecordFilter.Proofs.Criteria.Culture
import RecordFilter.Proofs.Json.Scaling
import RecordFilter.Proofs.Json.Doubles
import RecordFilter.Proofs.Json.Rounded
import RecordFilter.Proofs.CompactArray.Chains
import RecordFilter.Proofs.CompactArray.Juxtaposition
import RecordFilter.Proofs.CompactArray.Text
import RecordFilter.Proofs.CompactArray.Extent
import RecordFilter.Proofs.Calendar.Periods
import RecordFilter.Proofs.Interval.Calendar
import RecordFilter.Proofs.Condition.Laws
import RecordFilter.Proofs.Condition.Nulls
import RecordFilter.Proofs.Condition.Scan
import RecordFilter.Proofs.OperatorTree.Groups
import RecordFilter.Proofs.OperatorTree.SameDay
import RecordFilter.Proofs.Condition.Expansions
import RecordFilter.Proofs.Condition.Wildcards
import RecordFilter.Proofs.Criteria.Rename
import RecordFilter.Proofs.Culture.Fragments
import RecordFilter.Proofs.RecordType.Names
import RecordFilter.Proofs.RecordType.NameTable
import RecordFilter.Proofs.Criteria.ValueLists
