import Scrutineer.Verdict
import Scrutineer.Proofs.Rule.RuleSet

/-! The verdict of a set of rules is put side by side with what each stored rule says
of the craft when it is compiled alone. The set adds nothing: its failures are those
of the single rules in their order, its trace has one line for each rule, and neither
a neighbour nor the place in the set has any influence. -/

namespace Scrutineer

/-- What a stored rule, compiled on its own, reports of a craft: its failure
when its condition is false, and nothing otherwise. -/
def Rule.failureOn? (craft : Craft) (rule : Rule) : Option RuleFailure :=
  match Strategy.ofName? rule.strategy, Condition.compile rule.strategy rule.params with
  | some strategy, .ok condition =>
      if condition.holds craft then none
      else
        some
          { ruleId := rule.id
            strategy := strategy.name
            message := condition.failureMessage craft }
  | _, _ => none

def Rule.TracedAs (craft : Craft) (rule : Rule) (line : String) : Prop :=
  ∃ strategy condition,
    Strategy.ofName? rule.strategy = some strategy ∧
      Condition.compile rule.strategy rule.params = .ok condition ∧
      line = rule.id ++ " [" ++ strategy.name ++ "] => " ++
        (if condition.holds craft then "PASS" else "FAIL")

def RuleFailure.traceLine (failure : RuleFailure) : String :=
  failure.ruleId ++ " [" ++ failure.strategy ++ "] => " ++ "FAIL"

namespace Verdict

def isFailLine (line : String) : Bool :=
  "FAIL".toList.isSuffixOf line.toList

/-- A verdict says of every rule what that rule says on its own. -/
structure OfEachAlone (verdict : Verdict) (craft : Craft) (rules : List Rule) : Prop where
  evaluated : verdict.evaluated = rules.length
  failures : verdict.failures = rules.filterMap (·.failureOn? craft)
  passed : verdict.passed = true ↔ verdict.failures = []

/-- The trace of a verdict has one line for each rule in order, and those that
report a failure are the lines of the failures. -/
structure TracesEach (verdict : Verdict) (craft : Craft) (rules : List Rule) : Prop where
  lines : List.Forall₂ (Rule.TracedAs craft) rules verdict.trace
  failLines : verdict.trace.filter isFailLine = verdict.failures.map RuleFailure.traceLine

/-! ### Compiled rules and the rules they come from -/

private theorem failure?_eq_failureOn? {known : CompiledRule} {rule : Rule}
    (isOf : known.IsOf rule) (craft : Craft) :
    known.failure? craft = rule.failureOn? craft := by
  unfold CompiledRule.failure? Rule.failureOn?
  rw [isOf.strategy, isOf.condition, isOf.id]
  rfl

private theorem filterMap_failure? {rules : List Rule} {compiled : List CompiledRule}
    (each : List.Forall₂ (fun rule known => known.IsOf rule) rules compiled) (craft : Craft) :
    compiled.filterMap (·.failure? craft) = rules.filterMap (·.failureOn? craft) := by
  induction each with
  | nil => rfl
  | cons isOf _rest ih =>
      rw [List.filterMap_cons, List.filterMap_cons, failure?_eq_failureOn? isOf craft, ih]

private theorem traceLine_tracedAs {known : CompiledRule} {rule : Rule}
    (isOf : known.IsOf rule) (craft : Craft) :
    rule.TracedAs craft (known.traceLine craft) := by
  refine ⟨known.strategy, known.condition, isOf.strategy, isOf.condition, ?_⟩
  rw [← isOf.id]
  rfl

private theorem forall₂_traceLine {rules : List Rule} {compiled : List CompiledRule}
    (each : List.Forall₂ (fun rule known => known.IsOf rule) rules compiled) (craft : Craft) :
    List.Forall₂ (Rule.TracedAs craft) rules (compiled.map (·.traceLine craft)) := by
  induction each with
  | nil => exact List.Forall₂.nil
  | cons isOf _rest ih => exact List.Forall₂.cons (traceLine_tracedAs isOf craft) ih

/-! ### The lines of the failures -/

private theorem isFailLine_append_fail (front : String) : isFailLine (front ++ "FAIL") = true := by
  unfold isFailLine
  rw [List.isSuffixOf_iff_suffix, String.toList_append]
  exact List.suffix_append front.toList "FAIL".toList

private theorem isFailLine_append_pass (front : String) : isFailLine (front ++ "PASS") = false := by
  apply Bool.eq_false_iff.mpr
  intro isFail
  unfold isFailLine at isFail
  rw [List.isSuffixOf_iff_suffix, String.toList_append] at isFail
  obtain ⟨before, whole⟩ := isFail
  have sameEnd : "FAIL".toList = "PASS".toList := List.append_inj_right' whole rfl
  exact absurd sameEnd (by decide)

private theorem filter_isFailLine (craft : Craft) (compiled : List CompiledRule) :
    (compiled.map (·.traceLine craft)).filter isFailLine =
      (compiled.filterMap (·.failure? craft)).map RuleFailure.traceLine := by
  induction compiled with
  | nil => rfl
  | cons known rest ih =>
      rw [List.map_cons, List.filter_cons, List.filterMap_cons, ih]
      unfold CompiledRule.traceLine CompiledRule.failure?
      cases known.holds craft with
      | true => simp only [if_true, isFailLine_append_pass, Bool.false_eq_true, if_false]
      | false =>
          simp only [Bool.false_eq_true, if_false, isFailLine_append_fail, if_true]
          rfl

/-! ### Verdicts of accepted sets -/

theorem judge_of_valid (withTrace : Bool) (craft : Craft) (compiled : List CompiledRule)
    (valid : craft.validate = .ok ()) :
    judge withTrace craft compiled = .ok (ofRules withTrace craft compiled) := by
  unfold judge
  rw [valid]
  rfl

private theorem judge_of_invalid (withTrace : Bool) (craft : Craft) (compiled : List CompiledRule)
    (error : RuleError) (invalid : craft.validate = .error error) :
    judge withTrace craft compiled = .error error := by
  unfold judge
  rw [invalid]
  rfl

private theorem ofRules_ofEachAlone (withTrace : Bool) (craft : Craft) {rules : List Rule}
    {compiled : List CompiledRule}
    (each : List.Forall₂ (fun rule known => known.IsOf rule) rules compiled) :
    (ofRules withTrace craft compiled).OfEachAlone craft rules where
  evaluated := each.length_eq.symm
  failures := filterMap_failure? each craft
  passed := List.isEmpty_iff

private theorem ofRules_tracesEach (craft : Craft) {rules : List Rule}
    {compiled : List CompiledRule}
    (each : List.Forall₂ (fun rule known => known.IsOf rule) rules compiled) :
    (ofRules true craft compiled).TracesEach craft rules where
  lines := forall₂_traceLine each craft
  failLines := filter_isFailLine craft compiled

private theorem OfEachAlone.perm {verdict changed : Verdict} {craft : Craft}
    {rules reordered : List Rule} (alone : verdict.OfEachAlone craft rules)
    (changedAlone : changed.OfEachAlone craft reordered) (perm : reordered.Perm rules) :
    changed.failures.Perm verdict.failures ∧ changed.passed = verdict.passed ∧
      changed.evaluated = verdict.evaluated := by
  have failuresPerm : changed.failures.Perm verdict.failures := by
    rw [alone.failures, changedAlone.failures]
    exact perm.filterMap _
  refine ⟨failuresPerm, ?_, ?_⟩
  · apply Bool.eq_iff_iff.mpr
    rw [alone.passed, changedAlone.passed]
    constructor
    · intro none
      rw [none] at failuresPerm
      exact failuresPerm.nil_eq.symm
    · intro none
      rw [none] at failuresPerm
      exact failuresPerm.eq_nil
  · rw [alone.evaluated, changedAlone.evaluated]
    exact perm.length_eq

private theorem exists_recompiled {compiler other : Compiler} {rules others : List Rule}
    {compiled : List CompiledRule} (accepted : (compiler.compileSet rules).1 = .ok compiled)
    (within : others.length ≤ other.maxRules) (from_rules : ∀ rule ∈ others, rule ∈ rules) :
    ∃ recompiled, (other.compileSet others).1 = .ok recompiled ∧
      List.Forall₂ (fun rule known => known.IsOf rule) others recompiled := by
  obtain ⟨_within, compiles, _same⟩ :=
    (Compiler.compileSet_eq_ok_iff compiler rules compiled).mp accepted
  obtain ⟨recompiled, reaccepted⟩ := Compiler.exists_compileSet_eq_ok other others within
    (fun rule member => compiles rule (from_rules rule member))
  exact ⟨recompiled, reaccepted, Compiler.compileSet_forall₂ other others recompiled reaccepted⟩

/-- An accepted set of rules is judged rule by rule. A craft that is not valid
gets no verdict, even from no rules. On a valid one the verdict holds what the
single rules say on their own, in their order, and a trace changes nothing
else; rules in another order give the same failures in another order; and a set
in two pieces fails as its pieces do, whichever compilers they go through. -/
theorem judge_compileSet_each_alone (compiler : Compiler) (rules : List Rule)
    (compiled : List CompiledRule) (accepted : (compiler.compileSet rules).1 = .ok compiled)
    (craft : Craft) :
    (∀ error, craft.validate = .error error →
      ∀ withTrace, judge withTrace craft compiled = .error error) ∧
    (craft.validate = .ok () →
      (∃ traced untraced,
        judge true craft compiled = .ok traced ∧ judge false craft compiled = .ok untraced ∧
          traced.OfEachAlone craft rules ∧ traced.TracesEach craft rules ∧
          untraced = { traced with trace := [] }) ∧
      (∀ (other : Compiler) (reordered : List Rule), reordered.Perm rules →
        reordered.length ≤ other.maxRules →
        ∃ recompiled, (other.compileSet reordered).1 = .ok recompiled ∧
          ∀ withTrace, ∃ verdict changed,
            judge withTrace craft compiled = .ok verdict ∧
              judge withTrace craft recompiled = .ok changed ∧
              changed.failures.Perm verdict.failures ∧ changed.passed = verdict.passed ∧
              changed.evaluated = verdict.evaluated) ∧
      (∀ (first second : Compiler) (before after : List Rule), rules = before ++ after →
        before.length ≤ first.maxRules → after.length ≤ second.maxRules →
        ∃ earlier later, (first.compileSet before).1 = .ok earlier ∧
          (second.compileSet after).1 = .ok later ∧
          ∀ withTrace, ∃ whole front back,
            judge withTrace craft compiled = .ok whole ∧
              judge withTrace craft earlier = .ok front ∧ judge withTrace craft later = .ok back ∧
              whole.failures = front.failures ++ back.failures)) := by
  have each := Compiler.compileSet_forall₂ compiler rules compiled accepted
  constructor
  · intro error invalid withTrace
    exact judge_of_invalid withTrace craft compiled error invalid
  · intro valid
    refine ⟨?_, ?_, ?_⟩
    · exact ⟨ofRules true craft compiled, ofRules false craft compiled,
        judge_of_valid true craft compiled valid, judge_of_valid false craft compiled valid,
        ofRules_ofEachAlone true craft each, ofRules_tracesEach craft each, rfl⟩
    · intro other reordered perm within
      obtain ⟨recompiled, reaccepted, reEach⟩ :=
        exists_recompiled accepted within (fun rule member => perm.mem_iff.mp member)
      refine ⟨recompiled, reaccepted, ?_⟩
      intro withTrace
      have alone := ofRules_ofEachAlone withTrace craft each
      have changedAlone := ofRules_ofEachAlone withTrace craft reEach
      exact ⟨ofRules withTrace craft compiled, ofRules withTrace craft recompiled,
        judge_of_valid withTrace craft compiled valid,
        judge_of_valid withTrace craft recompiled valid, alone.perm changedAlone perm⟩
    · intro first second before after whole beforeWithin afterWithin
      obtain ⟨earlier, earlierAccepted, earlierEach⟩ :=
        exists_recompiled accepted beforeWithin
          (fun rule member => whole ▸ List.mem_append_left after member)
      obtain ⟨later, laterAccepted, laterEach⟩ :=
        exists_recompiled accepted afterWithin
          (fun rule member => whole ▸ List.mem_append_right before member)
      refine ⟨earlier, later, earlierAccepted, laterAccepted, ?_⟩
      intro withTrace
      refine ⟨_, _, _, judge_of_valid withTrace craft compiled valid,
        judge_of_valid withTrace craft earlier valid,
        judge_of_valid withTrace craft later valid, ?_⟩
      rw [(ofRules_ofEachAlone withTrace craft each).failures,
        (ofRules_ofEachAlone withTrace craft earlierEach).failures,
        (ofRules_ofEachAlone withTrace craft laterEach).failures, whole, List.filterMap_append]

private def threeRules : List Rule :=
  [{ id := "r1", strategy := "part_exists", params := [("part", .text "fuelTank")] },
    { id := "r2", strategy := "part_not_exists", params := [("part", .text "engine")] },
    { id := "r3", strategy := "part_set_exists"
      params := [("matcher", .text "all"), ("parts", .text "wingA, wingB")] }]

private def threeCompiled : List CompiledRule :=
  [{ id := "r1", strategy := .partExists, condition := .partExists "fuelTank", version := 1 },
    { id := "r2", strategy := .partNotExists, condition := .partNotExists "engine", version := 2 },
    { id := "r3", strategy := .partSetContains
      condition := .partSetContains ["wingA", "wingB"] .all, version := 3 }]

private def twoPartCraft : Craft :=
  (Craft.bare .assemblyHall { x := .zero, y := .zero, z := .zero }).withParts
    [{ name := "fuelTank_1", modules := [], resources := [] },
      { name := "engine_1", modules := [], resources := [] }]

private theorem compileSet_threeRules :
    (Compiler.fresh.compileSet threeRules).1 = .ok threeCompiled := by
  have first := (Condition.compile_eq_ok_iff "part_exists" [("part", .text "fuelTank")]
    (.partExists "fuelTank")).mpr ⟨.partExists, by decide, .partExists rfl⟩
  have second := (Condition.compile_eq_ok_iff "part_not_exists" [("part", .text "engine")]
    (.partNotExists "engine")).mpr ⟨.partNotExists, by decide, .partNotExists rfl⟩
  have third := (Condition.compile_eq_ok_iff "part_set_exists"
    [("matcher", .text "all"), ("parts", .text "wingA, wingB")]
    (.partSetContains ["wingA", "wingB"] .all)).mpr
      ⟨.partSetContains, by decide, .partSetContains rfl rfl⟩
  refine (Compiler.compileSet_eq_ok_iff Compiler.fresh threeRules threeCompiled).mpr
    ⟨by decide, ?_, ?_⟩
  · intro rule member
    simp only [threeRules, List.mem_cons, List.not_mem_nil, or_false] at member
    rcases member with rfl | rfl | rfl
    · exact ⟨_, first⟩
    · exact ⟨_, second⟩
    · exact ⟨_, third⟩
  · rw [threeRules,
      Compiler.compileEach_cons_ok _ _ _ _ _
        (Compiler.compile_of_strategy _ _ .partExists _ (by decide) first),
      Compiler.compileEach_cons_ok _ _ _ _ _
        (Compiler.compile_of_strategy _ _ .partNotExists _ (by decide) second),
      Compiler.compileEach_cons_ok _ _ _ _ _
        (Compiler.compile_of_strategy _ _ .partSetContains _ (by decide) third)]
    rfl

/-- Of three rules the second and the third fail, each on its own account. -/
theorem judge_compileSet_three_rules :
    (Compiler.fresh.compileSet threeRules).1 = .ok threeCompiled ∧
      twoPartCraft.validate = .ok () ∧
      ∃ verdict, judge true twoPartCraft threeCompiled = .ok verdict ∧
        verdict.OfEachAlone twoPartCraft threeRules ∧
        verdict.TracesEach twoPartCraft threeRules ∧ verdict.failedRuleIds = ["r2", "r3"] := by
  have accepted := compileSet_threeRules
  have valid : twoPartCraft.validate = .ok () := rfl
  obtain ⟨⟨traced, _untraced, judged, _plain, alone, traces, _same⟩, _others⟩ :=
    (judge_compileSet_each_alone Compiler.fresh threeRules threeCompiled accepted
      twoPartCraft).2 valid
  have same : ofRules true twoPartCraft threeCompiled = traced := Except.ok.inj judged
  refine ⟨accepted, valid, traced, judged, alone, traces, ?_⟩
  rw [← same]
  decide

end Verdict
end Scrutineer
