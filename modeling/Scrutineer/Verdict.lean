import Scrutineer.Craft.Snapshot
import Scrutineer.Rule.Compiler

/-! A craft is judged by going through compiled rules in order. Every rule is a
predicate of its own, so no rule has a part in the outcome of another one; the
failures stand in the order of the rules. A craft whose quantities are not all finite
is not judged. -/

namespace Scrutineer

structure RuleFailure where
  ruleId : String
  strategy : String
  message : String
deriving DecidableEq

namespace RuleFailure

structure Draft where
  ruleId : Option String
  strategy : Option String
  message : Option String

def textField (name : String) (held : Draft → Option String)
    (set : String → Draft → Draft) : Decoder.Field Draft where
  name := name
  required := true
  isSet := fun draft => (held draft).isSome
  read := fun level document => do
    let content ← Decoder.text level document
    return set content

def shape : Decoder.Shape Draft RuleFailure where
  wanted := "struct RuleFailure"
  start := { ruleId := none, strategy := none, message := none }
  fields := [
    textField "rule_id" (·.ruleId) (fun content draft => { draft with ruleId := some content }),
    textField "strategy" (·.strategy) (fun content draft => { draft with strategy := some content }),
    textField "message" (·.message) (fun content draft => { draft with message := some content })]
  finish := fun draft => do
    let ruleId ← Decoder.needed "rule_id" draft.ruleId
    let strategy ← Decoder.needed "strategy" draft.strategy
    let message ← Decoder.needed "message" draft.message
    return { ruleId, strategy, message }

def decoder : Decoder RuleFailure := shape.decoder

def toJson (failure : RuleFailure) : Json :=
  .object [("rule_id", .text failure.ruleId), ("strategy", .text failure.strategy),
    ("message", .text failure.message)]

end RuleFailure

structure Verdict where
  passed : Bool
  failures : List RuleFailure
  evaluated : Nat
  trace : List String
deriving DecidableEq

namespace CompiledRule

def traceLine (rule : CompiledRule) (craft : Craft) : String :=
  rule.id ++ " [" ++ rule.strategy.name ++ "] => " ++ (if rule.holds craft then "PASS" else "FAIL")

def failure? (rule : CompiledRule) (craft : Craft) : Option RuleFailure :=
  if rule.holds craft then none
  else
    some { ruleId := rule.id, strategy := rule.strategy.name, message := rule.failureMessage craft }

end CompiledRule

namespace Verdict

def ofRules (withTrace : Bool) (craft : Craft) (rules : List CompiledRule) : Verdict :=
  let failures := rules.filterMap (·.failure? craft)
  { passed := failures.isEmpty
    failures
    evaluated := rules.length
    trace := if withTrace then rules.map (·.traceLine craft) else [] }

/-- Judges a craft, unless one of its quantities is not finite. -/
def judge (withTrace : Bool) (craft : Craft) (rules : List CompiledRule) :
    Except RuleError Verdict := do
  craft.validate
  return ofRules withTrace craft rules

def messages (verdict : Verdict) : List String :=
  verdict.failures.map (·.message)

def failedRuleIds (verdict : Verdict) : List String :=
  verdict.failures.map (·.ruleId)

def members (verdict : Verdict) : Members :=
  [("passed", .truth verdict.passed),
    ("failures", .array (verdict.failures.map RuleFailure.toJson)),
    ("evaluated", .ofNat verdict.evaluated),
    ("evaluation_trace", .ofTexts verdict.trace)]

end Verdict
end Scrutineer
