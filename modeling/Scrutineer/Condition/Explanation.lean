import Scrutineer.Condition.Basic

/-! Explaining conditions. Where a condition fails, the failing checks are collected
through conjunctions and disjunctions alone: what stands under a negation or an
exclusive choice is not at fault on its own, so those are reported as a whole. -/

namespace Scrutineer
namespace Condition

def countComplaint : Operator → String
  | .less | .lessOrEqual => "too many parts!"
  | .greater | .greaterOrEqual => "not enough parts!"
  | .equal | .notEqual => "wrong number of parts!"

def explainCount (operator : Operator) (value : Int64) : String :=
  countComplaint operator ++ " (" ++ operator.symbol ++ " " ++ toString value.toInt ++ ")"

def listNames (names : List String) : String :=
  String.intercalate ", " names

def explainAxis (axis : String) (bound : Bound) : String :=
  axis ++ " " ++ bound.operator.symbol ++ " " ++ bound.limit.message

def explainTotal (verb : String) (bound : Bound) : String :=
  "craft must " ++ verb ++ " " ++ bound.operator.tag ++ " " ++ bound.limit.message

def explainCheck (kind : String) (check : PropertyCheck) : String :=
  "part (" ++ check.part ++ ") with " ++ kind ++ " (" ++ check.target ++
    ") must have property (" ++ check.key ++ ") with value " ++
    check.comparator.operator.tag ++ " " ++ check.value.shown

def explain : Condition → String
  | .builtIn building => "Craft must be saved in the " ++ building.tag
  | .size x y z =>
      "Craft size out of bounds (" ++ explainAxis "x" x ++ ", " ++ explainAxis "y" y ++ ", " ++
        explainAxis "z" z ++ ")"
  | .partCount operator value => explainCount operator value
  | .partExists part => "part must exist! (" ++ part ++ ")"
  | .partNotExists part => "part must not exist! (" ++ part ++ ")"
  | .partSetContains parts .none => "parts must not exist! (" ++ listNames parts ++ ")"
  | .partSetContains parts .any => "parts must contain at least one of (" ++ listNames parts ++ ")"
  | .partSetContains parts .all => "parts must exist! (" ++ listNames parts ++ ")"
  | .partSetCount parts operator value =>
      explainCount operator value ++ " from set (" ++ listNames parts ++ ")"
  | .moduleProperty check => explainCheck "module" check
  | .resourceProperty check => explainCheck "resource" check
  | .cost bound => explainTotal "cost" bound
  | .mass bound => explainTotal "have mass" bound
  | .points bound => explainTotal "have points" bound
  | .not condition => "not (" ++ condition.explain ++ ")"
  | .and left right => "(" ++ left.explain ++ ") and (" ++ right.explain ++ ")"
  | .or left right => "(" ++ left.explain ++ ") or (" ++ right.explain ++ ")"
  | .xor left right => "exactly one of (" ++ left.explain ++ "), (" ++ right.explain ++ ")"

/-- The explanations of the conditions that make a condition fail, from left to
right; none when it holds. -/
def failures (craft : Craft) (condition : Condition) : List String :=
  if condition.holds craft then []
  else
    match condition with
    | .and left right => left.failures craft ++ right.failures craft
    | .or left right => left.failures craft ++ right.failures craft
    | other => [other.explain]

/-- The failures in one line; the whole explanation when there are none. -/
def failureMessage (craft : Craft) (condition : Condition) : String :=
  match condition.failures craft with
  | [] => condition.explain
  | reasons => String.intercalate "; " reasons

end Condition
end Scrutineer
