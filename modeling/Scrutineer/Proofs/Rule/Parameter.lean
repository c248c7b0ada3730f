import Mathlib.Data.List.Basic
import Scrutineer.Proofs.Rule.Compilation

/-! A parameter is a slot with the keys under which its value may stand. Each strategy
has a list of parameters. What its reading reports is what they report one after the
other, and its outcome depends on nothing but what each of them reads. -/

namespace Scrutineer

inductive Place where
  | under (key : String)
  /-- Under the second key if only that one has a value. -/
  | valued (first second : String)
  /-- Under the second key if only that one is there, be it with null. -/
  | listed (first second : String)
deriving DecidableEq

namespace Place

def keys : Place → List String
  | .under key => [key]
  | .valued first second | .listed first second => [first, second]

def chosen (params : Members) : Place → String
  | .under key => key
  | .valued first second => Reading.presentKey params first [second]
  | .listed first second =>
      if (Entries.find? first params).isSome then first
      else if (Entries.find? second params).isSome then second
      else first

theorem chosen_mem_keys (place : Place) (params : Members) : place.chosen params ∈ place.keys := by
  cases place with
  | under key => exact List.mem_singleton_self key
  | valued first second =>
      change Reading.presentKey params first [second] ∈ [first, second]
      unfold Reading.presentKey
      generalize found : List.find? _ [first, second] = result
      cases result with
      | none => exact List.mem_cons_self
      | some key => exact List.mem_of_find?_eq_some found
  | listed first second =>
      change (if _ then first else if _ then second else first) ∈ [first, second]
      split
      · exact List.mem_cons_self
      · split
        · exact List.mem_cons_of_mem first (List.mem_singleton_self second)
        · exact List.mem_cons_self

end Place

def Slot.rule : Slot Condition := fun value => do
  let inner ← Slot.definition value
  (Condition.compile inner.strategy inner.params).mapError fun error => .nested error.message

structure Parameter where
  {Value : Type}
  place : Place
  slot : Slot Value

namespace Parameter

abbrev under {Value : Type} (key : String) (slot : Slot Value) : Parameter :=
  { place := .under key, slot }

abbrev targetUnder (key : String) : Parameter :=
  { place := .valued key "name", slot := Slot.name }

abbrev building : Parameter :=
  { place := .listed "location" "type", slot := Slot.building }

/-- What a parameter reads on its own: a value, or one error. -/
def read (parameter : Parameter) (params : Members) : Except ParamError parameter.Value :=
  (parameter.slot.read params (parameter.place.chosen params)).mapError fun fault =>
    { key := parameter.place.chosen params, fault }

def Reads (parameter : Parameter) (params : Members) : Prop :=
  ∃ value, parameter.read params = .ok value

def error? (parameter : Parameter) (params : Members) : Option ParamError :=
  match parameter.read params with
  | .ok _ => none
  | .error error => some error

def reading (parameter : Parameter) (params : Members) : Reading parameter.Value :=
  match parameter.read params with
  | .ok value => { outcome := some value, errors := [] }
  | .error error => { outcome := none, errors := [error] }

theorem slot_eq_reading (parameter : Parameter) (params : Members) :
    Reading.slot parameter.slot params (parameter.place.chosen params) =
      parameter.reading params := by
  unfold Reading.slot reading read
  cases parameter.slot.read params (parameter.place.chosen params) with
  | ok value => rfl
  | error fault => rfl

theorem errors_reading (parameter : Parameter) (params : Members) :
    (parameter.reading params).errors = (parameter.error? params).toList := by
  unfold reading error?
  cases parameter.read params with
  | ok value => rfl
  | error error => rfl

theorem reading_eq_of_read {parameter : Parameter} {left right : Members}
    (same : parameter.read left = parameter.read right) :
    parameter.reading left = parameter.reading right := by
  unfold reading
  rw [same]

theorem error?_eq_none_iff (parameter : Parameter) (params : Members) :
    parameter.error? params = none ↔ parameter.Reads params := by
  unfold error? Reads
  cases parameter.read params with
  | ok value => simp
  | error error => simp

theorem key_of_error? {parameter : Parameter} {params : Members} {error : ParamError}
    (failed : parameter.error? params = some error) : error.key = parameter.place.chosen params := by
  unfold error? read at failed
  cases taken : parameter.slot.read params (parameter.place.chosen params) with
  | ok value =>
      rw [taken] at failed
      cases failed
  | error fault =>
      rw [taken] at failed
      cases failed
      rfl

end Parameter

namespace Strategy

/-! ### The parameters of each strategy -/

def boundParameters (operatorKey limitKey : String) : List Parameter :=
  [.under operatorKey Slot.operator, .under limitKey Slot.double]

def checkParameters (targetKey : String) (form : Form) : List Parameter :=
  [.under "part" Slot.name, .targetUnder targetKey, .under "key" Slot.name,
    .under "op" Slot.operator, .under "value" (Slot.reference form)]

def parameters : Strategy → List Parameter
  | .partCount => [.under "op" Slot.operator, .under "value" Slot.count]
  | .partExists | .partNotExists => [.under "part" Slot.name]
  | .partSetCount =>
      [.under "parts" Slot.partSet, .under "op" Slot.operator, .under "value" Slot.count]
  | .partSetContains => [.under "parts" Slot.partSet, .under "matcher" Slot.matcher]
  | .doubleModuleProperty => checkParameters "mod" .double
  | .countModuleProperty => checkParameters "mod" .count
  | .textModuleProperty => checkParameters "mod" .text
  | .resourceProperty => checkParameters "res" .double
  | .shipCost | .shipMass | .shipPoints => boundParameters "op" "value"
  | .shipSize => boundParameters "opx" "x" ++ boundParameters "opy" "y" ++ boundParameters "opz" "z"
  | .shipLocation => [.building]
  | .not => [.under "rule" Slot.rule]
  | .and | .or | .xor => [.under "a" Slot.rule, .under "b" Slot.rule]

def faults (strategy : Strategy) (params : Members) : List ParamError :=
  strategy.parameters.filterMap (·.error? params)

/-! ### Readings of single parameters -/

namespace Source

open Condition (sourceOf nestedIn)

theorem slot_sourceOf {Value : Type} (params : Members) (slot : Slot Value) (key : String) :
    (sourceOf params).slot slot key = (Parameter.under key slot).reading params :=
  (Parameter.under key slot).slot_eq_reading params

theorem nestedIn_eq_read (params : Members) (key : String) :
    nestedIn params key = Slot.rule.read params key := by
  unfold nestedIn Slot.read
  cases Entries.find? key params with
  | none => rfl
  | some value =>
      cases value with
      | null => rfl
      | _ =>
          unfold Slot.rule
          dsimp only
          generalize Slot.definition _ = inside
          cases inside with
          | error fault => rfl
          | ok inner => rfl

theorem child_sourceOf (params : Members) (key : String) :
    (sourceOf params).child key = (Parameter.under key Slot.rule).reading params :=
  (congrArg (Reading.ofExcept key) (nestedIn_eq_read params key)).trans
    ((Parameter.under key Slot.rule).slot_eq_reading params)

theorem target_sourceOf (params : Members) (targetKey : String) :
    Reading.nameUnder (sourceOf params).params targetKey ["name"] =
      (Parameter.targetUnder targetKey).reading params :=
  (Parameter.targetUnder targetKey).slot_eq_reading params

end Source

open Condition (sourceOf)

theorem filterMap_cons_toList {Item : Type _} {Made : Type} (make? : Item → Option Made)
    (first : Item) (rest : List Item) :
    (first :: rest).filterMap make? = (make? first).toList ++ rest.filterMap make? := by
  rw [List.filterMap_cons]
  cases make? first with
  | none => rfl
  | some made => rfl

private theorem condition_shipLocation (params : Members) :
    shipLocation.condition (sourceOf params) =
      Condition.builtIn <$> Parameter.building.reading params :=
  congrArg (Condition.builtIn <$> ·) (Parameter.building.slot_eq_reading params)

/-- Reading a strategy reports what its parameters report, in their order. -/
theorem errors_condition (strategy : Strategy) (params : Members) :
    (strategy.condition (sourceOf params)).errors = strategy.faults params := by
  unfold faults
  -- The building is apart: its key is chosen before anything is read.
  cases strategy
  case shipLocation =>
    rw [condition_shipLocation, Reading.errors_map, Parameter.errors_reading, parameters,
      filterMap_cons_toList, List.filterMap_nil, List.append_nil]
  all_goals
    simp only [condition, Source.bound, Source.check, Source.slot_sourceOf, Source.child_sourceOf,
      Source.target_sourceOf, Reading.errors_map, Reading.errors_seq, Parameter.errors_reading,
      parameters, boundParameters, checkParameters, filterMap_cons_toList, List.filterMap_nil,
      List.append_nil, List.append_assoc, List.cons_append, List.nil_append]

theorem outcome_condition_eq (strategy : Strategy) {left right : Members}
    (same : ∀ parameter ∈ strategy.parameters,
      (parameter.reading left).outcome = (parameter.reading right).outcome) :
    (strategy.condition (sourceOf left)).outcome =
      (strategy.condition (sourceOf right)).outcome := by
  cases strategy
  case shipLocation =>
    rw [condition_shipLocation, condition_shipLocation, Reading.outcome_map, Reading.outcome_map,
      same Parameter.building (List.mem_singleton_self _)]
  all_goals
    simp only [parameters, boundParameters, checkParameters, List.cons_append, List.nil_append,
      List.forall_mem_cons] at same
    simp only [condition, Source.bound, Source.check, Source.slot_sourceOf, Source.child_sourceOf,
      Source.target_sourceOf, Reading.outcome_map, Reading.outcome_seq, same]

/-- Reading a strategy depends on what its parameters read and on nothing else. -/
theorem condition_eq_of_reads (strategy : Strategy) {left right : Members}
    (same : ∀ parameter ∈ strategy.parameters, parameter.read left = parameter.read right) :
    strategy.condition (sourceOf left) = strategy.condition (sourceOf right) := by
  have outcomes := strategy.outcome_condition_eq fun parameter member =>
    congrArg Reading.outcome (Parameter.reading_eq_of_read (same parameter member))
  have faults : strategy.faults left = strategy.faults right := by
    apply List.filterMap_congr
    intro parameter member
    unfold Parameter.error?
    rw [same parameter member]
  rw [← strategy.errors_condition left, ← strategy.errors_condition right] at faults
  exact Reading.ext outcomes faults

end Strategy
end Scrutineer
