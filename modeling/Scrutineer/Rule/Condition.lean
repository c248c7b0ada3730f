import Scrutineer.Condition.Basic
import Scrutineer.Rule.Reader
import Scrutineer.Rule.Strategy

/-! Each strategy asks a reader for its parameters, all of them even when one is at
fault, and builds one condition from them. The connectives hold whole rules in their
parameters and compile those in turn; a failure inside is one fault of the parameter
that holds the rule. -/

namespace Scrutineer

namespace Reader

def bound (reader : Reader) (operatorKey limitKey : String) : Noting Bound := OptionT.mk do
  let operator ← (reader.operator operatorKey).run
  let limit ← (reader.double limitKey).run
  return Bound.mk <$> operator <*> limit

def check (reader : Reader) (targetKey : String) (form : Form) : Noting PropertyCheck :=
  OptionT.mk do
    let part ← (reader.name "part").run
    let target ← (reader.nameUnder targetKey ["name"]).run
    let key ← (reader.name "key").run
    let operator ← (reader.operator "op").run
    let value ← (reader.reference form "value").run
    return (fun part target key operator value =>
        { part, target, key, comparator := { operator, form }, value }) <$>
      part <*> target <*> key <*> operator <*> value

/-- The key of the building: `location`, or `type` when only that is there. -/
def buildingKey (reader : Reader) : String :=
  if (Entries.find? "location" reader.params).isSome then "location"
  else if (Entries.find? "type" reader.params).isSome then "type"
  else "location"

def accept (key : String) : Except RuleError Condition → Noting Condition
  | .ok condition => return condition
  | .error error => do
      nestedError key error
      failure

def child (reader : Reader)
    (compile : Definition.Within reader.params → Except RuleError Condition) (key : String) :
    Noting Condition := do
  accept key (compile (← reader.definition key))

def condition (reader : Reader)
    (compile : Definition.Within reader.params → Except RuleError Condition) :
    Strategy → Noting Condition
  | .partCount => OptionT.mk do
      let operator ← (reader.operator "op").run
      let value ← (reader.count "value").run
      return Condition.partCount <$> operator <*> value
  | .partExists => Condition.partExists <$> reader.name "part"
  | .partNotExists => Condition.partNotExists <$> reader.name "part"
  | .partSetCount => OptionT.mk do
      let parts ← (reader.partSet "parts").run
      let operator ← (reader.operator "op").run
      let value ← (reader.count "value").run
      return Condition.partSetCount <$> parts <*> operator <*> value
  | .partSetContains => OptionT.mk do
      let parts ← (reader.partSet "parts").run
      let matcher ← (reader.matcher "matcher").run
      return Condition.partSetContains <$> parts <*> matcher
  | .doubleModuleProperty => Condition.moduleProperty <$> reader.check "mod" .double
  | .countModuleProperty => Condition.moduleProperty <$> reader.check "mod" .count
  | .textModuleProperty => Condition.moduleProperty <$> reader.check "mod" .text
  | .resourceProperty => Condition.resourceProperty <$> reader.check "res" .double
  | .shipCost => Condition.cost <$> reader.bound "op" "value"
  | .shipMass => Condition.mass <$> reader.bound "op" "value"
  | .shipPoints => Condition.points <$> reader.bound "op" "value"
  | .shipSize => OptionT.mk do
      let x ← (reader.bound "opx" "x").run
      let y ← (reader.bound "opy" "y").run
      let z ← (reader.bound "opz" "z").run
      return Condition.size <$> x <*> y <*> z
  | .shipLocation => Condition.builtIn <$> reader.building reader.buildingKey
  | .not => Condition.not <$> reader.child compile "rule"
  | .and => pair Condition.and
  | .or => pair Condition.or
  | .xor => pair Condition.xor
where
  pair (join : Condition → Condition → Condition) : Noting Condition := OptionT.mk do
    let left ← (reader.child compile "a").run
    let right ← (reader.child compile "b").run
    return join <$> left <*> right

def build (reader : Reader)
    (compile : Definition.Within reader.params → Except RuleError Condition)
    (strategy : Strategy) : Except RuleError Condition :=
  let (built, errors) := (reader.condition compile strategy).run.run []
  reader.finish built errors

end Reader

namespace Condition

/-- Compiles the name of a strategy and its parameters, given how rules inside of
the parameters are compiled. -/
def compileWith (strategy : String) (params : Members)
    (inside : Definition.Within params → Except RuleError Condition) :
    Except RuleError Condition :=
  match Strategy.ofName? strategy with
  | none => .error (.unknownStrategy strategy)
  | some known => Reader.build { strategy := known.name, params } inside known

/-- Compiles the name of a strategy and its parameters. Rules inside of the
parameters are compiled in the same way. -/
def compile (strategy : String) (params : Members) : Except RuleError Condition :=
  compileWith strategy params fun inner => compile inner.strategy inner.params
termination_by sizeOf params
decreasing_by exact inner.smaller

end Condition
end Scrutineer
