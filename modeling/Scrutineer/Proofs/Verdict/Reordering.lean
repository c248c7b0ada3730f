import Scrutineer.Proofs.Condition.FailingLeaf
import Scrutineer.Proofs.Condition.Property
import Scrutineer.Proofs.Craft.Reordering
import Scrutineer.Verdict

/-! Verdicts on crafts that list the same things in another order. No condition looks
at the order of parts, of modules or of resources, so each of them comes to the same
on both crafts, with the same leaves at fault. -/

namespace Scrutineer

variable {craft other : Craft}

namespace PropertyCheck

theorem passes_eq_of_reorders (check : PropertyCheck) {bagsOf : Part → List Bag}
    (each : ∀ part another : Part, part.Reorders another → (bagsOf part).Perm (bagsOf another))
    (reorders : craft.Reorders other) : check.passes bagsOf craft = check.passes bagsOf other := by
  have subjects : (check.subjects bagsOf craft).Perm (check.subjects bagsOf other) :=
    ((reorders.partsMatching check.part).flatMap_perm each).filter _
  rw [passes_eq, passes_eq, subjects.isEmpty_eq, subjects.any_eq]

end PropertyCheck

theorem Condition.totalOf_eq_of_reorders (reorders : craft.Reorders other) (names : List String) :
    totalOf craft names = totalOf other names := by
  simp only [totalOf, reorders.countOf_eq]

/-! ### Crafts that no condition tells apart -/

/-- All conditions come to the same on both crafts. -/
def Craft.Alike (craft other : Craft) : Prop :=
  ∀ condition : Condition, condition.holds craft = condition.holds other

theorem Craft.Reorders.alike (reorders : craft.Reorders other) : craft.Alike other := by
  intro condition
  induction condition with
  | builtIn building => rw [Condition.holds, Condition.holds, reorders.building]
  | size x y z => rw [Condition.holds, Condition.holds, reorders.size]
  | partCount operator value => rw [Condition.holds, Condition.holds, reorders.parts.length_eq]
  | partExists part | partNotExists part =>
      rw [Condition.holds, Condition.holds, reorders.partsMatching_isEmpty]
  | partSetContains parts matcher =>
      have present : craft.containsBase = other.containsBase := funext reorders.containsBase_eq
      rw [Condition.holds, Condition.holds, present]
  | partSetCount parts operator value =>
      rw [Condition.holds, Condition.holds, Condition.totalOf_eq_of_reorders reorders]
  | moduleProperty check =>
      exact check.passes_eq_of_reorders (fun _part _another same => same.modules) reorders
  | resourceProperty check =>
      exact check.passes_eq_of_reorders (fun _part _another same => same.resources) reorders
  | cost bound => rw [Condition.holds, Condition.holds, reorders.cost]
  | mass bound => rw [Condition.holds, Condition.holds, reorders.mass]
  | points bound => rw [Condition.holds, Condition.holds, reorders.points]
  | not condition ih => rw [Condition.holds, Condition.holds, ih]
  | and left right leftIh rightIh | or left right leftIh rightIh | xor left right leftIh rightIh =>
      rw [Condition.holds, Condition.holds, leftIh, rightIh]

namespace Craft.Alike

/-- What stands above a leaf is false on one craft when it is on the other, so
the same leaves are at fault. -/
theorem failingLeaves_eq (alike : craft.Alike other) (condition : Condition) :
    condition.failingLeaves craft = condition.failingLeaves other := by
  induction condition using Condition.induction_on_failing craft with
  | passing condition held =>
      rw [Condition.failingLeaves_of_holds held,
        Condition.failingLeaves_of_holds ((alike condition).symm.trans held)]
  | failingLeaf condition isLeaf fails =>
      rw [Condition.failingLeaves_of_isLeaf isLeaf fails,
        Condition.failingLeaves_of_isLeaf isLeaf ((alike condition).symm.trans fails)]
  | failingJoin condition left right joins fails leftIh rightIh =>
      rw [joins.failingLeaves fails, joins.failingLeaves ((alike condition).symm.trans fails),
        leftIh, rightIh]

theorem failures_eq (alike : craft.Alike other) (condition : Condition) :
    condition.failures craft = condition.failures other := by
  rw [Condition.failures_eq_map_explain, Condition.failures_eq_map_explain,
    alike.failingLeaves_eq]

theorem failureMessage_eq (alike : craft.Alike other) (condition : Condition) :
    condition.failureMessage craft = condition.failureMessage other := by
  rw [Condition.failureMessage, Condition.failureMessage, alike.failures_eq]

theorem failure?_eq (alike : craft.Alike other) (rule : CompiledRule) :
    rule.failure? craft = rule.failure? other := by
  have same : rule.holds craft = rule.holds other := alike rule.condition
  have message : rule.failureMessage craft = rule.failureMessage other :=
    alike.failureMessage_eq rule.condition
  rw [CompiledRule.failure?, CompiledRule.failure?, same, message]

theorem traceLine_eq (alike : craft.Alike other) (rule : CompiledRule) :
    rule.traceLine craft = rule.traceLine other := by
  have same : rule.holds craft = rule.holds other := alike rule.condition
  rw [CompiledRule.traceLine, CompiledRule.traceLine, same]

theorem ofRules_eq (alike : craft.Alike other) (withTrace : Bool) (rules : List CompiledRule) :
    Verdict.ofRules withTrace craft rules = Verdict.ofRules withTrace other rules := by
  simp only [Verdict.ofRules, alike.failure?_eq, alike.traceLine_eq]

end Craft.Alike

namespace Verdict

/-- Whatever the order in which two designs list the same parts, modules and
resources, each rule comes to the same with the same leaves at fault and the
same message, and the verdicts are the same. -/
theorem judge_of_reordered (rules : List CompiledRule) (reorders : craft.Reorders other) :
    (∀ rule ∈ rules,
      rule.holds craft = rule.holds other ∧
      rule.condition.failingLeaves craft = rule.condition.failingLeaves other ∧
      rule.condition.failures craft = rule.condition.failures other ∧
      rule.failureMessage craft = rule.failureMessage other) ∧
    ∀ withTrace, judge withTrace craft rules = judge withTrace other rules := by
  have alike := reorders.alike
  constructor
  · intro rule _member
    exact ⟨alike rule.condition, alike.failingLeaves_eq rule.condition,
      alike.failures_eq rule.condition, alike.failureMessage_eq rule.condition⟩
  · intro withTrace
    rw [judge, judge, reorders.validate_eq, alike.ofRules_eq]

private def engineFirst : Craft :=
  (Craft.bare .hangar { x := .zero, y := .zero, z := .zero }).withParts
    [{ name := "engine_1", modules := [.ofName "gimbal", .ofName "alternator"], resources := [] },
      { name := "tank_2", modules := [], resources := [.ofName "fuel"] }]

private def tankFirst : Craft :=
  (Craft.bare .hangar { x := .zero, y := .zero, z := .zero }).withParts
    [{ name := "tank_2", modules := [], resources := [.ofName "fuel"] },
      { name := "engine_1", modules := [.ofName "alternator", .ofName "gimbal"], resources := [] }]

private def gimbalRule : CompiledRule where
  id := "gimbal"
  strategy := .doubleModuleProperty
  condition := .moduleProperty
    { part := "engine", target := "gimbal", key := "range",
      comparator := { operator := .less, form := .double }, value := .number .one }
  version := 1

/-- The engine has a gimbal without a range, wherever the two stand. -/
theorem judge_of_reordered_engine :
    judge true engineFirst [gimbalRule] = judge true tankFirst [gimbalRule] ∧
      gimbalRule.holds tankFirst = false := by
  have moved : Part.ListReorders engineFirst.parts tankFirst.parts := by
    refine ⟨engineFirst.parts.reverse, (List.reverse_perm _).symm, ?_⟩
    exact .cons ⟨rfl, .refl _, .refl _⟩ (.cons ⟨rfl, .swap _ _ _, .refl _⟩ .nil)
  have reorders : engineFirst.Reorders tankFirst :=
    { building := rfl, size := rfl, parts := moved, cost := rfl, mass := rfl, points := rfl
      partMap := .inr ⟨rfl, rfl⟩ }
  exact ⟨(judge_of_reordered [gimbalRule] reorders).2 true, by decide⟩

end Verdict
end Scrutineer
