import Scrutineer.Rule.Condition
import Scrutineer.Proofs.Rule.Reader

/-! What a reader does for a strategy, call by call, is one reading that combines
those of the single parameters. A rule compiles to the end of that reading, where a
parameter that holds a rule is read by compiling that rule. -/

namespace Scrutineer

namespace Strategy

/-- What there is to read from: the parameters, and the conditions of the rules
inside of them by key. -/
structure Source where
  params : Members
  nested : String → Except ParamFault Condition

namespace Source

def slot {Value : Type} (source : Source) (slot : Slot Value) (key : String) : Reading Value :=
  Reading.slot slot source.params key

def child (source : Source) (key : String) : Reading Condition :=
  Reading.ofExcept key (source.nested key)

def bound (source : Source) (operatorKey limitKey : String) : Reading Bound :=
  Bound.mk <$> source.slot Slot.operator operatorKey <*> source.slot Slot.double limitKey

def check (source : Source) (targetKey : String) (form : Form) : Reading PropertyCheck :=
  (fun part target key operator value =>
      { part, target, key, comparator := { operator, form }, value }) <$>
    source.slot Slot.name "part" <*> Reading.nameUnder source.params targetKey ["name"] <*>
    source.slot Slot.name "key" <*> source.slot Slot.operator "op" <*>
    source.slot (Slot.reference form) "value"

def buildingKey (source : Source) : String :=
  if (Entries.find? "location" source.params).isSome then "location"
  else if (Entries.find? "type" source.params).isSome then "type"
  else "location"

end Source

def condition (strategy : Strategy) (source : Source) : Reading Condition :=
  match strategy with
  | .partCount =>
      Condition.partCount <$> source.slot Slot.operator "op" <*> source.slot Slot.count "value"
  | .partExists => Condition.partExists <$> source.slot Slot.name "part"
  | .partNotExists => Condition.partNotExists <$> source.slot Slot.name "part"
  | .partSetCount =>
      Condition.partSetCount <$> source.slot Slot.partSet "parts" <*>
        source.slot Slot.operator "op" <*> source.slot Slot.count "value"
  | .partSetContains =>
      Condition.partSetContains <$> source.slot Slot.partSet "parts" <*>
        source.slot Slot.matcher "matcher"
  | .doubleModuleProperty => Condition.moduleProperty <$> source.check "mod" .double
  | .countModuleProperty => Condition.moduleProperty <$> source.check "mod" .count
  | .textModuleProperty => Condition.moduleProperty <$> source.check "mod" .text
  | .resourceProperty => Condition.resourceProperty <$> source.check "res" .double
  | .shipCost => Condition.cost <$> source.bound "op" "value"
  | .shipMass => Condition.mass <$> source.bound "op" "value"
  | .shipPoints => Condition.points <$> source.bound "op" "value"
  | .shipSize =>
      Condition.size <$> source.bound "opx" "x" <*> source.bound "opy" "y" <*>
        source.bound "opz" "z"
  | .shipLocation => Condition.builtIn <$> source.slot Slot.building source.buildingKey
  | .not => Condition.not <$> source.child "rule"
  | .and => Condition.and <$> source.child "a" <*> source.child "b"
  | .or => Condition.or <$> source.child "a" <*> source.child "b"
  | .xor => Condition.xor <$> source.child "a" <*> source.child "b"

end Strategy

namespace Noting

variable {Value Other Third Made : Type}

/-- What goes on after a task goes on with its outcome, be there a value or not. -/
theorem Gives.run_bind {task : Noting Value} {reading : Reading Value}
    (gives : task.Gives reading) (next : Option Value → StateM (List ParamError) Other)
    (errors : List ParamError) :
    (task.run >>= next).run errors = (next reading.outcome).run (errors ++ reading.errors) := by
  rw [StateT.run_bind, gives errors]
  rfl

theorem Gives.map {task : Noting Value} {reading : Reading Value} (gives : task.Gives reading)
    (apply : Value → Other) : (apply <$> task).Gives (apply <$> reading) := by
  intro errors
  rw [OptionT.run_map, StateT.run_map, gives errors, Reading.errors_map, Reading.outcome_map]
  rfl

/-- Two tasks are both done, also when the first one gives nothing. -/
theorem Gives.map_two {first : Noting Value} {second : Noting Other} {left : Reading Value}
    {right : Reading Other} (givesFirst : first.Gives left) (givesSecond : second.Gives right)
    (join : Value → Other → Made) :
    Gives (OptionT.mk do
      let value ← first.run
      let other ← second.run
      return join <$> value <*> other) (join <$> left <*> right) := by
  intro errors
  rw [OptionT.run_mk, givesFirst.run_bind, givesSecond.run_bind, List.append_assoc]
  rfl

theorem Gives.map_three {first : Noting Value} {second : Noting Other} {third : Noting Third}
    {left : Reading Value} {middle : Reading Other} {right : Reading Third}
    (givesFirst : first.Gives left) (givesSecond : second.Gives middle)
    (givesThird : third.Gives right) (join : Value → Other → Third → Made) :
    Gives (OptionT.mk do
      let value ← first.run
      let other ← second.run
      let last ← third.run
      return join <$> value <*> other <*> last) (join <$> left <*> middle <*> right) := by
  intro errors
  rw [OptionT.run_mk, givesFirst.run_bind, givesSecond.run_bind, givesThird.run_bind,
    Reading.errors_seq, Reading.errors_seq, Reading.errors_map, List.append_assoc,
    List.append_assoc, List.append_assoc]
  rfl

end Noting

namespace Reader

variable (reader : Reader) {nested : String → Except ParamFault Condition}

theorem gives_bound (operatorKey limitKey : String) :
    (reader.bound operatorKey limitKey).Gives
      (Strategy.Source.bound { params := reader.params, nested } operatorKey limitKey) :=
  (reader.gives_operator operatorKey).map_two (reader.gives_double limitKey) Bound.mk

theorem gives_check (targetKey : String) (form : Form) :
    (reader.check targetKey form).Gives
      (Strategy.Source.check { params := reader.params, nested } targetKey form) := by
  intro errors
  rw [check, OptionT.run_mk, (reader.gives_name "part").run_bind,
    (reader.gives_nameUnder targetKey ["name"]).run_bind, (reader.gives_name "key").run_bind,
    (reader.gives_operator "op").run_bind, (reader.gives_reference form "value").run_bind]
  simp only [Strategy.Source.check, Reading.errors_seq, Reading.errors_map, List.append_assoc]
  rfl

theorem gives_child (compile : Definition → Except RuleError Condition) (key : String) :
    (reader.child (fun inner => compile inner.toDefinition) key).Gives
      (Reading.ofExcept key (Slot.definition.read reader.params key >>= fun inner =>
        (compile inner).mapError fun error => .nested error.message)) := by
  have split := bind_map_left Definition.Within.toDefinition (reader.definition key)
    fun inner => accept key (compile inner)
  rw [child, ← split]
  refine (reader.gives_definition key).bind fun inner => ?_
  cases compile inner with
  | ok condition => exact Noting.gives_pure key condition
  | error error => exact Noting.gives_fault key (.nested error.message)

variable {compile : Definition.Within reader.params → Except RuleError Condition}

theorem gives_pair (inside : ∀ key, (reader.child compile key).Gives
      (Reading.ofExcept key (nested key))) (join : Condition → Condition → Condition) :
    (condition.pair reader compile join).Gives
      (join <$> Strategy.Source.child { params := reader.params, nested } "a" <*>
        Strategy.Source.child { params := reader.params, nested } "b") :=
  (inside "a").map_two (inside "b") join

/-- Strategy by strategy, the calls of a reader come to one combined reading. -/
theorem gives_condition (inside : ∀ key, (reader.child compile key).Gives
      (Reading.ofExcept key (nested key))) (strategy : Strategy) :
    (reader.condition compile strategy).Gives
      (strategy.condition { params := reader.params, nested }) := by
  cases strategy with
  | partCount =>
      exact (reader.gives_operator "op").map_two (reader.gives_count "value") _
  | partExists => exact (reader.gives_name "part").map _
  | partNotExists => exact (reader.gives_name "part").map _
  | partSetCount =>
      exact (reader.gives_partSet "parts").map_three (reader.gives_operator "op")
        (reader.gives_count "value") _
  | partSetContains =>
      exact (reader.gives_partSet "parts").map_two (reader.gives_matcher "matcher") _
  | doubleModuleProperty => exact (reader.gives_check "mod" .double).map _
  | countModuleProperty => exact (reader.gives_check "mod" .count).map _
  | textModuleProperty => exact (reader.gives_check "mod" .text).map _
  | resourceProperty => exact (reader.gives_check "res" .double).map _
  | shipCost => exact (reader.gives_bound "op" "value").map _
  | shipMass => exact (reader.gives_bound "op" "value").map _
  | shipPoints => exact (reader.gives_bound "op" "value").map _
  | shipSize =>
      exact (reader.gives_bound "opx" "x").map_three (reader.gives_bound "opy" "y")
        (reader.gives_bound "opz" "z") _
  | shipLocation => exact (reader.gives_building reader.buildingKey).map _
  | not => exact (inside "rule").map _
  | and => exact reader.gives_pair inside Condition.and
  | or => exact reader.gives_pair inside Condition.or
  | xor => exact reader.gives_pair inside Condition.xor

theorem finish_eq {Value : Type} (built : Option Value) (errors : List ParamError) :
    reader.finish built errors = Reading.finish reader.strategy { outcome := built, errors } := by
  cases built with
  | none => rfl
  | some value => cases errors <;> rfl

/-- Building a condition is finishing the reading of the strategy. -/
theorem build_eq_finish (inside : ∀ key, (reader.child compile key).Gives
      (Reading.ofExcept key (nested key))) (strategy : Strategy) :
    reader.build compile strategy =
      (strategy.condition { params := reader.params, nested }).finish reader.strategy := by
  rw [build, reader.gives_condition inside strategy]
  exact reader.finish_eq _ _

end Reader
end Scrutineer
