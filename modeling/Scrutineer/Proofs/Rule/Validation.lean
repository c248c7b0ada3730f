import Mathlib.Data.List.Nodup
import Scrutineer.Proofs.Rule.Parameter

/-! A rule of a known strategy compiles exactly when each of its parameters reads on
its own. Otherwise each parameter that does not read is reported once, in the order of
the strategy's keys. A parameter looks at its own keys only, so a change under them
leaves the reports of all other parameters as they are. -/

namespace Scrutineer

def Entries.AgreeOn {Value : Type} (keys : List String) (left right : List (String × Value)) :
    Prop :=
  ∀ key ∈ keys, find? key left = find? key right

/-! ### A parameter looks at its own keys -/

theorem Place.chosen_eq_of_agreeOn (place : Place) {left right : Members}
    (agree : Entries.AgreeOn place.keys left right) : place.chosen left = place.chosen right := by
  cases place with
  | under key => rfl
  | valued first second | listed first second =>
      have atFirst := agree first List.mem_cons_self
      have atSecond := agree second (List.mem_cons_of_mem first (List.mem_singleton_self second))
      simp only [chosen, Reading.presentKey, List.find?_cons, List.find?_nil, atFirst, atSecond]

theorem Slot.read_eq_of_find?_eq {Value : Type} (slot : Slot Value) {left right : Members}
    {key : String} (same : Entries.find? key left = Entries.find? key right) :
    slot.read left key = slot.read right key := by
  unfold read
  rw [same]

theorem Parameter.read_eq_of_agreeOn (parameter : Parameter) {left right : Members}
    (agree : Entries.AgreeOn parameter.place.keys left right) :
    parameter.read left = parameter.read right := by
  have sameKey := parameter.place.chosen_eq_of_agreeOn agree
  have sameRead := parameter.slot.read_eq_of_find?_eq
    (agree (parameter.place.chosen right) (parameter.place.chosen_mem_keys right))
  unfold read
  rw [sameKey, sameRead]

theorem Parameter.error?_eq_of_agreeOn (parameter : Parameter) {left right : Members}
    (agree : Entries.AgreeOn parameter.place.keys left right) :
    parameter.error? left = parameter.error? right := by
  unfold error?
  rw [parameter.read_eq_of_agreeOn agree]

/-! ### The keys of a strategy -/

namespace Strategy

def keys (strategy : Strategy) : List String :=
  strategy.parameters.flatMap fun parameter => parameter.place.keys

/-- The keys are those that the strategy lists, with a bar between two keys of
one parameter. -/
theorem listed_keys (strategy : Strategy) :
    (strategy.parameters.map fun parameter => String.intercalate "|" parameter.place.keys) =
      strategy.paramKeys := by
  cases strategy <;> rfl

theorem nodup_keys (strategy : Strategy) : strategy.keys.Nodup := by
  cases strategy <;> decide

theorem agreeOn_of_keys {strategy : Strategy} {left right : Members}
    (agree : Entries.AgreeOn strategy.keys left right) :
    ∀ parameter ∈ strategy.parameters, Entries.AgreeOn parameter.place.keys left right := by
  intro parameter member key own
  exact agree key (List.mem_flatMap.mpr ⟨parameter, member, own⟩)

theorem disjoint_keys {strategy : Strategy} {before after : List Parameter} {parameter : Parameter}
    (listed : strategy.parameters = before ++ parameter :: after) :
    ∀ other ∈ before ++ after, ∀ key ∈ other.place.keys, key ∉ parameter.place.keys := by
  have apart := (List.nodup_flatMap.mp strategy.nodup_keys).2
  rw [listed, List.pairwise_append, List.pairwise_cons] at apart
  obtain ⟨_before, ⟨fromParameter, _after⟩, across⟩ := apart
  intro other member key own shared
  rcases List.mem_append.mp member with earlier | later
  · exact across other earlier parameter List.mem_cons_self own shared
  · exact fromParameter other later shared own

/-- A change under the keys of one parameter changes what that one reports. -/
theorem faults_of_change {strategy : Strategy} {before after : List Parameter}
    {parameter : Parameter} (listed : strategy.parameters = before ++ parameter :: after)
    {params changed : Members}
    (elsewhere : ∀ key, key ∉ parameter.place.keys →
      Entries.find? key params = Entries.find? key changed) :
    strategy.faults changed =
      before.filterMap (·.error? params) ++ (parameter.error? changed).toList ++
        after.filterMap (·.error? params) := by
  have others : ∀ other ∈ before ++ after, other.error? changed = other.error? params := by
    intro other member
    have apart := disjoint_keys listed other member
    exact (other.error?_eq_of_agreeOn fun key own => elsewhere key (apart key own)).symm
  have sameBefore : before.filterMap (·.error? changed) = before.filterMap (·.error? params) :=
    List.filterMap_congr fun other member => others other (List.mem_append_left after member)
  have sameAfter : after.filterMap (·.error? changed) = after.filterMap (·.error? params) :=
    List.filterMap_congr fun other member => others other (List.mem_append_right before member)
  unfold faults
  rw [listed, List.filterMap_append, filterMap_cons_toList, sameBefore, sameAfter,
    List.append_assoc]

theorem faults_eq_nil_iff (strategy : Strategy) (params : Members) :
    strategy.faults params = [] ↔ ∀ parameter ∈ strategy.parameters, parameter.Reads params := by
  unfold faults
  rw [List.filterMap_eq_nil_iff]
  constructor
  · intro none parameter member
    exact (parameter.error?_eq_none_iff params).mp (none parameter member)
  · intro reads parameter member
    exact (parameter.error?_eq_none_iff params).mpr (reads parameter member)

end Strategy

/-! ### What compilation reports -/

namespace Condition

variable {name : String} {strategy : Strategy}

theorem compile_eq_finish (named : Strategy.ofName? name = some strategy) (params : Members) :
    compile name params = (strategy.condition (sourceOf params)).finish strategy.name := by
  rw [compile_eq_ofSource]
  unfold ofSource
  rw [named]

theorem compile_of_faults (named : Strategy.ofName? name = some strategy) {params : Members}
    (some : strategy.faults params ≠ []) :
    compile name params = .error (.invalidParams strategy.name (strategy.faults params)) := by
  rw [← strategy.errors_condition params] at some ⊢
  rw [compile_eq_finish named]
  exact Reading.finish_of_errors strategy.name some

theorem exists_compile_of_no_faults (named : Strategy.ofName? name = some strategy)
    {params : Members} (none : strategy.faults params = []) :
    ∃ condition, compile name params = .ok condition := by
  rw [← strategy.errors_condition params] at none
  rw [compile_eq_finish named]
  exact (strategy.settled_condition (sourceOf params)).exists_finish_eq_ok strategy.name none

def reported : Except RuleError Condition → List ParamError
  | .error (.invalidParams _ errors) => errors
  | _ => []

theorem reported_compile (named : Strategy.ofName? name = some strategy) (params : Members) :
    reported (compile name params) = strategy.faults params := by
  by_cases none : strategy.faults params = []
  · obtain ⟨condition, compiled⟩ := exists_compile_of_no_faults named none
    rw [compiled, none]
    rfl
  · rw [compile_of_faults named none]
    rfl

theorem compile_eq_of_reads (named : Strategy.ofName? name = some strategy) {left right : Members}
    (same : ∀ parameter ∈ strategy.parameters, parameter.read left = parameter.read right) :
    compile name left = compile name right := by
  rw [compile_eq_finish named, compile_eq_finish named, strategy.condition_eq_of_reads same]

end Condition

/-- The parameters of a strategy are validated one by one and all of them. -/
structure Strategy.ValidatesEach (strategy : Strategy)
    (compiled : Members → Except RuleError Condition) : Prop where
  listed : (strategy.parameters.map fun parameter =>
    String.intercalate "|" parameter.place.keys) = strategy.paramKeys
  accepts : ∀ params, (∃ condition, compiled params = .ok condition) ↔
    ∀ parameter ∈ strategy.parameters, parameter.Reads params
  rejects : ∀ params, (∃ parameter ∈ strategy.parameters, ¬ parameter.Reads params) →
    compiled params = .error (.invalidParams strategy.name
      (strategy.parameters.filterMap (·.error? params)))
  noErrorIfRead : ∀ parameter ∈ strategy.parameters, ∀ params, parameter.Reads params →
    parameter.error? params = none
  oneErrorElse : ∀ parameter ∈ strategy.parameters, ∀ params, ¬ parameter.Reads params →
    ∃ error, parameter.error? params = some error ∧ error.key ∈ parameter.place.keys
  ownKeys : ∀ parameter ∈ strategy.parameters, ∀ left right,
    Entries.AgreeOn parameter.place.keys left right → parameter.read left = parameter.read right
  othersUnaffected : ∀ before parameter after,
    strategy.parameters = before ++ parameter :: after → ∀ params changed,
    (∀ key, key ∉ parameter.place.keys →
      Entries.find? key params = Entries.find? key changed) →
    ∃ front back,
      Condition.reported (compiled params) = front ++ (parameter.error? params).toList ++ back ∧
      Condition.reported (compiled changed) = front ++ (parameter.error? changed).toList ++ back
  nothingElse : ∀ left right, Entries.AgreeOn strategy.keys left right →
    compiled left = compiled right

namespace Condition

theorem compile_validatesEach (name : String) (strategy : Strategy)
    (named : Strategy.ofName? name = some strategy) : strategy.ValidatesEach (compile name) where
  listed := strategy.listed_keys
  accepts := by
    intro params
    rw [← strategy.faults_eq_nil_iff]
    constructor
    · intro given
      rcases given with ⟨condition, compiled⟩
      have reported := reported_compile named params
      rw [compiled] at reported
      exact reported.symm
    · exact exists_compile_of_no_faults named
  rejects := by
    intro params given
    rcases given with ⟨parameter, member, unread⟩
    apply compile_of_faults named
    intro none
    exact unread ((strategy.faults_eq_nil_iff params).mp none parameter member)
  noErrorIfRead := fun parameter _member params => (parameter.error?_eq_none_iff params).mpr
  oneErrorElse := by
    intro parameter _member params unread
    cases failed : parameter.error? params with
    | none => exact absurd ((parameter.error?_eq_none_iff params).mp failed) unread
    | some error =>
        refine ⟨error, rfl, ?_⟩
        rw [Parameter.key_of_error? failed]
        exact parameter.place.chosen_mem_keys params
  ownKeys := fun parameter _member _left _right => parameter.read_eq_of_agreeOn
  othersUnaffected := by
    intro before parameter after listed params changed elsewhere
    refine ⟨before.filterMap (·.error? params), after.filterMap (·.error? params), ?_, ?_⟩
    · rw [reported_compile named]
      exact Strategy.faults_of_change listed fun key _other => rfl
    · rw [reported_compile named]
      exact Strategy.faults_of_change listed elsewhere
  nothingElse := by
    intro left right agree
    apply compile_eq_of_reads named
    intro parameter member
    exact parameter.read_eq_of_agreeOn (Strategy.agreeOn_of_keys agree parameter member)

/-- Three of five parameters of a rule are at fault, and all three are reported. -/
theorem compile_validatesEach_of_module_rule :
    Strategy.ofName? " Float_Module_Property" = some .doubleModuleProperty ∧
      compile " Float_Module_Property"
          [("op", .text "gte"), ("part", .text "engine"), ("value", .text "abc")] =
        .error (.invalidParams "float_module_property"
          [{ key := "mod", fault := .missing }, { key := "key", fault := .missing },
            { key := "value", fault := .notANumber "abc" }]) := by
  have named : Strategy.ofName? " Float_Module_Property" = some .doubleModuleProperty := by decide
  have validated := compile_validatesEach _ _ named
  refine ⟨named, ?_⟩
  have unread : ¬ (Parameter.targetUnder "mod").Reads
      [("op", .text "gte"), ("part", .text "engine"), ("value", .text "abc")] := by
    intro given
    rcases given with ⟨value, impossible⟩
    cases impossible
  have rejected := validated.rejects _
    ⟨.targetUnder "mod", List.mem_cons_of_mem _ List.mem_cons_self, unread⟩
  rw [rejected]
  rfl

end Condition
end Scrutineer
