import Scrutineer.Main
import Scrutineer.Error
import Scrutineer.Rule.Reader
import Scrutineer.Proofs.Rule.RuleSet
import Scrutineer.Proofs.Craft.Name
import Scrutineer.Proofs.Numeric.Range
import Scrutineer.Proofs.Verdict.Isolation
import Scrutineer.Proofs.Condition.WellFormed
import Scrutineer.Proofs.Condition.FailingLeaf
import Scrutineer.Proofs.Rule.Slot
import Scrutineer.Proofs.Rule.Written
import Scrutineer.Proofs.Rule.Image
import Scrutineer.Proofs.Craft.PartMap
import Scrutineer.Proofs.Craft.Loading
import Scrutineer.Proofs.Craft.Presence
import Scrutineer.Proofs.Rule.Targeting
import Scrutineer.Proofs.Rule.Parameter
import Scrutineer.Proofs.Rule.Validation
import Scrutineer.Proofs.Rule.Absence
import Scrutineer.Proofs.Rule.Nesting
import Scrutineer.Proofs.Rule.NestedFault
import Scrutineer.Proofs.Rule.Numbering
import Scrutineer.Proofs.Comparison.Exactness
import Scrutineer.Proofs.Craft.RoundTrip
import Scrutineer.Proofs.Rule.Stored
import Scrutineer.Proofs.Verdict.Reordering
import Scrutineer.Proofs.Condition.PartSet
import Scrutineer.Proofs.Craft.ZeroCount
import Scrutineer.Proofs.Comparison.Order
import Scrutineer.Proofs.Rule.Complement
import Scrutineer.Proofs.Condition.Property
import Scrutineer.Proofs.Rule.OwnValue
import Scrutineer.Proofs.Craft.ExactCount
import Scrutineer.Proofs.Condition.Polarity
import Scrutineer.Proofs.Numeric.Value
import Scrutineer.Proofs.Rule.Count
import Scrutineer.Proofs.Text.Spelling
import Scrutineer.Proofs.Rule.Alike
import Scrutineer.Proofs.Rule.Spelling
import Scrutineer.Proofs.Rule.PartList
import Scrutineer.Proofs.Comparison.Readings
import Scrutineer.Proofs.ErrorKind
import Scrutineer.Proofs.Command.Agreement
import Scrutineer.Proofs.Rule.BaseName
import Scrutineer.Proofs.Rule.AlternativeKey
import Scrutineer.Proofs.Rule.Reader
import Scrutineer.Proofs.Rule.Source
import Scrutineer.Proofs.Rule.Account
