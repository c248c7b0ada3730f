import Scrutineer.Proofs.Rule.Nesting
import Scrutineer.Proofs.Rule.Validation

/-! A connective reports a rule inside of it that fails as one fault of the parameter
that holds the rule, with the message of that rule. Since each level repeats the
messages of the level below, the message of the whole rule contains the message of
every definition inside that fails, however deep it lies. -/

namespace Scrutineer

/-! ### Messages inside of messages -/

theorem infix_intercalate_of_mem (separator : String) {texts : List String} {text : String}
    (member : text ∈ texts) :
    text.toList <:+: (String.intercalate separator texts).toList := by
  induction texts with
  | nil => cases member
  | cons first rest ih =>
      cases rest with
      | nil =>
          have whole : (String.intercalate separator [first]).toList = text.toList := by
            rw [List.mem_singleton.mp member, String.intercalate_singleton]
          exact whole.symm ▸ List.infix_rfl
      | cons second others =>
          rw [String.intercalate_cons_cons, String.toList_append, String.toList_append]
          rcases List.mem_cons.mp member with same | later
          · rw [same, List.append_assoc]
            exact (List.prefix_append _ _).isInfix
          · exact (ih later).trans (List.suffix_append _ _).isInfix

theorem ParamError.message_infix_invalidParams (strategy : String) {errors : List ParamError}
    {error : ParamError} (member : error ∈ errors) :
    error.message.toList <:+: (RuleError.invalidParams strategy errors).message.toList := by
  have joined := infix_intercalate_of_mem "; " (List.mem_map_of_mem (f := ParamError.message) member)
  apply joined.trans
  change _ <:+: ("invalid params for strategy " ++ strategy ++ ": " ++ _ : String).toList
  rw [String.toList_append]
  exact (List.suffix_append _ _).isInfix

theorem ParamError.nested_message_infix (key : String) (message : String) :
    message.toList <:+:
      (ParamError.message { key, fault := .nested message }).toList := by
  change _ <:+: (key ++ ": " ++ message : String).toList
  rw [String.toList_append]
  exact (List.suffix_append _ _).isInfix

/-! ### The rules that a connective holds -/

namespace Strategy

def ruleKeys : Strategy → List String
  | .not => ["rule"]
  | .and | .or | .xor => ["a", "b"]
  | _ => []

theorem nodup_ruleKeys (strategy : Strategy) : strategy.ruleKeys.Nodup := by
  cases strategy <;> decide

theorem parameters_of_ruleKeys {strategy : Strategy} {key : String}
    (own : key ∈ strategy.ruleKeys) :
    strategy.parameters = strategy.ruleKeys.map fun held => .under held Slot.rule := by
  cases strategy
  case not | and | or | xor => rfl
  all_goals cases own

theorem filter_error?_under (held key : String) (params : Members) :
    ((Parameter.under held Slot.rule).error? params).filter (fun error => error.key = key) =
      if held = key then (Parameter.under held Slot.rule).error? params else none := by
  cases failed : (Parameter.under held Slot.rule).error? params with
  | none => exact (ite_self none).symm
  | some error =>
      have sameKey : error.key = held := Parameter.key_of_error? failed
      rw [Option.filter_some, sameKey]
      simp only [decide_eq_true_eq]

theorem filterMap_only {Made : Type} {keys : List String} {key : String} (own : key ∈ keys)
    (distinct : keys.Nodup) (make? : String → Option Made) :
    keys.filterMap (fun held => if held = key then make? held else none) =
      (make? key).toList := by
  induction keys with
  | nil => cases own
  | cons first rest ih =>
      obtain ⟨notLater, distinct⟩ := List.nodup_cons.mp distinct
      rw [filterMap_cons_toList]
      by_cases same : first = key
      · have nothing : rest.filterMap (fun held => if held = key then make? held else none) =
            [] := by
          apply List.filterMap_eq_nil_iff.mpr
          intro held member
          apply if_neg
          intro equal
          rw [equal, ← same] at member
          exact notLater member
        rw [if_pos same, nothing, same, List.append_nil]
      · have later := (List.mem_cons.mp own).resolve_left (Ne.symm same)
        rw [if_neg same, Option.toList_none, List.nil_append]
        exact ih later distinct

/-- What a connective reports under one key is what the rule there reports. -/
theorem filter_faults {strategy : Strategy} {key : String} (own : key ∈ strategy.ruleKeys)
    (params : Members) :
    (strategy.faults params).filter (·.key = key) =
      ((Parameter.under key Slot.rule).error? params).toList := by
  rw [← filterMap_only own strategy.nodup_ruleKeys fun held =>
    (Parameter.under held Slot.rule).error? params]
  unfold faults
  rw [parameters_of_ruleKeys own, List.filterMap_map, List.filter_filterMap]
  apply List.filterMap_congr
  intro held _member
  exact filter_error?_under held key params

end Strategy

namespace Definition

structure Nests (outer : Definition) (strategy : Strategy) (key : String) (child : Definition) :
    Prop where
  named : Strategy.ofName? outer.strategy = some strategy
  own : key ∈ strategy.ruleKeys
  holds : outer.Holds key child

/-- A definition is inside of a rule when connectives, one inside of the other,
lead to it. -/
inductive Inside (inner : Definition) : Definition → Prop where
  | itself : Inside inner inner
  | under {outer child : Definition} {strategy : Strategy} {key : String}
      (nests : outer.Nests strategy key child) (inside : Inside inner child) : Inside inner outer

variable {outer child : Definition} {strategy : Strategy} {key : String} {error : RuleError}

theorem Holds.error?_rule (holds : outer.Holds key child) (failed : child.compile = .error error) :
    (Parameter.under key Slot.rule).error? outer.params =
      some { key, fault := .nested error.message } := by
  have read : Slot.rule.read outer.params key = .error (.nested error.message) := by
    rw [← Strategy.Source.nestedIn_eq_read]
    unfold Condition.nestedIn
    rw [holds.read_definition]
    change (child.compile.mapError fun error => ParamFault.nested error.message) = _
    rw [failed]
    rfl
  have fails : (Parameter.under key Slot.rule).read outer.params =
      .error { key, fault := .nested error.message } :=
    congrArg (Except.mapError fun fault => ({ key, fault } : ParamError)) read
  unfold Parameter.error?
  rw [fails]

theorem Nests.compile_of_failed (nests : outer.Nests strategy key child)
    (failed : child.compile = .error error) :
    ∃ errors, outer.compile = .error (.invalidParams strategy.name errors) ∧
      errors.filter (·.key = key) = [{ key, fault := .nested error.message }] := by
  have reported : (strategy.faults outer.params).filter (·.key = key) =
      [{ key, fault := .nested error.message }] := by
    rw [Strategy.filter_faults nests.own, nests.holds.error?_rule failed]
    rfl
  refine ⟨strategy.faults outer.params, ?_, reported⟩
  apply Condition.compile_of_faults nests.named
  intro none
  rw [none] at reported
  cases reported

theorem Nests.message_infix (nests : outer.Nests strategy key child)
    (failed : child.compile = .error error) :
    ∃ errors, outer.compile = .error (.invalidParams strategy.name errors) ∧
      error.message.toList <:+: (RuleError.invalidParams strategy.name errors).message.toList := by
  obtain ⟨errors, outerFailed, reported⟩ := nests.compile_of_failed failed
  refine ⟨errors, outerFailed, ?_⟩
  have member : { key, fault := .nested error.message } ∈ errors :=
    List.mem_of_mem_filter (reported ▸ List.mem_singleton_self _)
  exact (ParamError.nested_message_infix key error.message).trans
    (ParamError.message_infix_invalidParams strategy.name member)

theorem Inside.message_infix {inner root : Definition} (inside : inner.Inside root)
    (failed : inner.compile = .error error) :
    ∃ whole, root.compile = .error whole ∧ error.message.toList <:+: whole.message.toList := by
  induction inside with
  | itself => exact ⟨error, failed, List.infix_rfl⟩
  | under nests _inside ih =>
      obtain ⟨part, childFailed, contained⟩ := ih
      obtain ⟨errors, outerFailed, repeated⟩ := nests.message_infix childFailed
      exact ⟨_, outerFailed, contained.trans repeated⟩

theorem exists_invalidParams_of_named {root : Definition} {whole : RuleError}
    (named : Strategy.ofName? root.strategy = some strategy)
    (failed : root.compile = .error whole) :
    ∃ errors, whole = .invalidParams strategy.name errors := by
  have faulty : strategy.faults root.params ≠ [] := by
    intro none
    obtain ⟨condition, compiled⟩ := Condition.exists_compile_of_no_faults named none
    have impossible := failed.symm.trans compiled
    cases impossible
  have rejected := failed.symm.trans (Condition.compile_of_faults named faulty)
  cases rejected
  exact ⟨_, rfl⟩

/-- No failure is lost through nesting. A rule of a known strategy, as are all
connectives, fails on its parameters as soon as a definition inside fails, with
a message that contains the one of that definition; and each connective inside
reports a rule that fails exactly once, under the key that holds it. -/
theorem compile_reports_inner_failures (root : Definition) (strategy : Strategy)
    (named : Strategy.ofName? root.strategy = some strategy) :
    (∀ inner : Definition, inner.Inside root → ∀ error, inner.compile = .error error →
      ∃ errors, root.compile = .error (.invalidParams strategy.name errors) ∧
        error.message.toList <:+:
          (RuleError.invalidParams strategy.name errors).message.toList) ∧
    (∀ node : Definition, node.Inside root → ∀ own key child, node.Nests own key child →
      ∀ error, child.compile = .error error →
        ∃ errors, node.compile = .error (.invalidParams own.name errors) ∧
          errors.filter (·.key = key) = [{ key, fault := .nested error.message }]) := by
  constructor
  · intro inner inside error failed
    obtain ⟨whole, rootFailed, contained⟩ := inside.message_infix failed
    obtain ⟨errors, same⟩ := exists_invalidParams_of_named named rootFailed
    subst same
    exact ⟨errors, rootFailed, contained⟩
  · intro node _inside own key child nests error failed
    exact nests.compile_of_failed failed

private def alwaysTrue : Definition :=
  { strategy := "always_true", params := [] }

private def partOrAlways : Definition :=
  { strategy := "or"
    params :=
      [("a", .object [("strategy", .text "part_exists"), ("params", .object [])]),
        ("b", alwaysTrue.toJson)] }

private def noPartNorAlways : Definition :=
  { strategy := "Not", params := [("rule", partOrAlways.toJson)] }

/-- The strategy of a rule two levels down does not exist, and its sibling fails
as well. -/
theorem compile_reports_unknown_inner_strategy :
    Strategy.ofName? noPartNorAlways.strategy = some .not ∧
      (∃ errors, noPartNorAlways.compile = .error (.invalidParams "not" errors) ∧
        "unknown strategy: always_true".toList <:+:
          (RuleError.invalidParams "not" errors).message.toList) ∧
      ∃ errors, partOrAlways.compile = .error (.invalidParams "or" errors) ∧
        errors.filter (·.key = "b") =
          [{ key := "b", fault := .nested "unknown strategy: always_true" }] := by
  have named : Strategy.ofName? noPartNorAlways.strategy = some .not := by decide
  have holdsEither : noPartNorAlways.Nests .not "rule" partOrAlways :=
    ⟨named, by decide, _, rfl, partOrAlways.defines_toJson⟩
  have holdsUnknown : partOrAlways.Nests .or "b" alwaysTrue :=
    ⟨by decide, by decide, _, rfl, alwaysTrue.defines_toJson⟩
  have unknown : alwaysTrue.compile = .error (.unknownStrategy "always_true") := by
    unfold compile
    rw [Condition.compile_eq_ofSource]
    rfl
  obtain ⟨contained, reportedOnce⟩ := compile_reports_inner_failures noPartNorAlways .not named
  have message : (RuleError.unknownStrategy "always_true").message =
      "unknown strategy: always_true" := rfl
  rw [← message]
  refine ⟨named, ?_, ?_⟩
  · exact contained alwaysTrue (.under holdsEither (.under holdsUnknown .itself)) _ unknown
  · exact reportedOnce partOrAlways (.under holdsEither .itself) .or "b" alwaysTrue holdsUnknown _
      unknown

end Definition
end Scrutineer
