import Mathlib.Data.List.Forall2
import Scrutineer.Rule.Compiler
import Scrutineer.Proofs.Rule.Compilation

/-! What a rule compiles to is decided by the rule alone; the compiler adds a number.
A set is accepted when it is not too large and each of its rules compiles, and then
its compiled rules are those of the rules, in order. -/

namespace Scrutineer

def Rule.Compiles (rule : Rule) : Prop :=
  ∃ condition, Condition.compile rule.strategy rule.params = .ok condition

/-- A compiled rule is what a stored rule compiles to on its own, whatever its
number. -/
structure CompiledRule.IsOf (known : CompiledRule) (rule : Rule) : Prop where
  id : known.id = rule.id
  strategy : Strategy.ofName? rule.strategy = some known.strategy
  condition : Condition.compile rule.strategy rule.params = .ok known.condition

namespace Compiler

/-! ### One rule -/

theorem compile_of_strategy (compiler : Compiler) (rule : Rule) (strategy : Strategy)
    (condition : Condition) (found : Strategy.ofName? rule.strategy = some strategy)
    (made : Condition.compile rule.strategy rule.params = .ok condition) :
    compiler.compile rule =
      (.ok { id := rule.id, strategy, condition, version := compiler.version + 1 },
        { compiler with version := compiler.version + 1 }) := by
  unfold compile
  rw [found, made]

theorem compile_of_error (compiler : Compiler) (rule : Rule) (error : RuleError)
    (failed : Condition.compile rule.strategy rule.params = .error error) :
    compiler.compile rule = (.error error, compiler) := by
  unfold compile
  rw [failed]
  cases Strategy.ofName? rule.strategy <;> rfl

/-- One rule gives the next number and itself, or leaves the compiler as it is. -/
theorem compile_cases (compiler : Compiler) (rule : Rule) :
    (∃ known : CompiledRule, known.IsOf rule ∧ known.version = compiler.version + 1 ∧
      compiler.compile rule = (.ok known, { compiler with version := compiler.version + 1 })) ∨
    (∃ error, Condition.compile rule.strategy rule.params = .error error ∧
      compiler.compile rule = (.error error, compiler)) := by
  cases made : Condition.compile rule.strategy rule.params with
  | error error => exact Or.inr ⟨error, rfl, compile_of_error compiler rule error made⟩
  | ok condition =>
      obtain ⟨strategy, found, _outcome⟩ :=
        (Condition.compile_eq_ok_iff rule.strategy rule.params condition).mp made
      exact Or.inl ⟨_, ⟨rfl, found, made⟩, rfl,
        compile_of_strategy compiler rule strategy condition found made⟩

/-! ### Rules one after the other -/

theorem compileEach_cons_ok (compiler next : Compiler) (rule : Rule) (rest : List Rule)
    (known : CompiledRule) (compiled : compiler.compile rule = (.ok known, next)) :
    compiler.compileEach (rule :: rest) =
      (known :: (next.compileEach rest).1, (next.compileEach rest).2) := by
  rw [compileEach, compiled]

theorem compileEach_cons_error (compiler next : Compiler) (rule : Rule) (rest : List Rule)
    (error : RuleError) (failed : compiler.compile rule = (.error error, next)) :
    compiler.compileEach (rule :: rest) =
      ((next.compileEach rest).1, { ruleId := rule.id, error } :: (next.compileEach rest).2.1,
        (next.compileEach rest).2.2) := by
  rw [compileEach, failed]

theorem compileEach_rejected_eq_nil_iff (compiler : Compiler) (rules : List Rule) :
    (compiler.compileEach rules).2.1 = [] ↔ ∀ rule ∈ rules, rule.Compiles := by
  induction rules generalizing compiler with
  | nil => simp [compileEach]
  | cons rule rest ih =>
      rcases compile_cases compiler rule with
        ⟨known, isOf, _version, compiled⟩ | ⟨error, made, failed⟩
      · have ruleCompiles : rule.Compiles := ⟨known.condition, isOf.condition⟩
        rw [compileEach_cons_ok compiler _ rule rest known compiled, ih]
        simp [ruleCompiles]
      · rw [compileEach_cons_error compiler _ rule rest error failed]
        have ruleFails : ¬rule.Compiles := by
          intro given
          rcases given with ⟨condition, compiles⟩
          rw [made] at compiles
          cases compiles
        simp [ruleFails]

theorem compileEach_forall₂ (compiler : Compiler) (rules : List Rule)
    (noneRejected : (compiler.compileEach rules).2.1 = []) :
    List.Forall₂ (fun rule known => known.IsOf rule) rules (compiler.compileEach rules).1 := by
  induction rules generalizing compiler with
  | nil => exact List.Forall₂.nil
  | cons rule rest ih =>
      rcases compile_cases compiler rule with
        ⟨known, isOf, _version, compiled⟩ | ⟨error, _made, failed⟩
      · rw [compileEach_cons_ok compiler _ rule rest known compiled] at noneRejected ⊢
        exact List.Forall₂.cons isOf (ih _ noneRejected)
      · rw [compileEach_cons_error compiler _ rule rest error failed] at noneRejected
        cases noneRejected

/-! ### Sets of rules -/

theorem compileSet_eq_ok_iff (compiler : Compiler) (rules : List Rule)
    (compiled : List CompiledRule) :
    (compiler.compileSet rules).1 = .ok compiled ↔
      rules.length ≤ compiler.maxRules ∧ (∀ rule ∈ rules, rule.Compiles) ∧
        (compiler.compileEach rules).1 = compiled := by
  rw [← compileEach_rejected_eq_nil_iff compiler rules]
  unfold compileSet
  by_cases tooLarge : compiler.maxRules < rules.length
  · rw [if_pos tooLarge]
    have notWithin : ¬rules.length ≤ compiler.maxRules := Nat.not_le.mpr tooLarge
    simp [notWithin]
  · rw [if_neg tooLarge]
    have within : rules.length ≤ compiler.maxRules := Nat.not_lt.mp tooLarge
    rcases compiler.compileEach rules with ⟨known, rejected, last⟩
    cases rejected with
    | nil => simp [within]
    | cons first others => simp

theorem compileSet_forall₂ (compiler : Compiler) (rules : List Rule)
    (compiled : List CompiledRule) (accepted : (compiler.compileSet rules).1 = .ok compiled) :
    List.Forall₂ (fun rule known => known.IsOf rule) rules compiled := by
  obtain ⟨_within, compiles, same⟩ := (compileSet_eq_ok_iff compiler rules compiled).mp accepted
  rw [← same]
  exact compileEach_forall₂ compiler rules
    ((compileEach_rejected_eq_nil_iff compiler rules).mpr compiles)

theorem exists_compileSet_eq_ok (compiler : Compiler) (rules : List Rule)
    (within : rules.length ≤ compiler.maxRules) (compiles : ∀ rule ∈ rules, rule.Compiles) :
    ∃ compiled, (compiler.compileSet rules).1 = .ok compiled :=
  ⟨(compiler.compileEach rules).1,
    (compileSet_eq_ok_iff compiler rules _).mpr ⟨within, compiles, rfl⟩⟩

end Compiler
end Scrutineer
