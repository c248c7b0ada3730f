import Scrutineer.Proofs.Craft.Loading
import Scrutineer.Proofs.Rule.Numbering
import Scrutineer.Proofs.Rule.Validation
import Scrutineer.Proofs.Verdict.Isolation

/-! A rule fails because there is no such strategy or because parameters of the
strategy are at fault, and then at least one is named. A set of rules fails on its
size or on rules in it, and then at least one is named, with the error that it has by
itself. A text that holds no rules is told apart from them, and so is a craft that
cannot be judged; a craft that was loaded can be. -/

namespace Scrutineer

/-! ### Errors of rules -/

/-- What an error says is wrong with a rule: its strategy, by the name that the
rule has for it, or parameters of the strategy. -/
inductive RuleError.Names (name : String) : RuleError → Prop where
  | unknown (absent : Strategy.ofName? name = none) : Names name (.unknownStrategy name)
  | params {strategy : Strategy} {errors : List ParamError}
      (named : Strategy.ofName? name = some strategy) (some : errors ≠ []) :
      Names name (.invalidParams strategy.name errors)

theorem RuleError.Names.isCompilation {name : String} {error : RuleError}
    (names : error.Names name) : error.kind.isCompilation = true := by
  cases names <;> rfl

namespace Condition

theorem compile_of_unknown {name : String} (absent : Strategy.ofName? name = none)
    (params : Members) : compile name params = .error (.unknownStrategy name) := by
  rw [compile_eq_ofSource]
  unfold ofSource
  rw [absent]

/-- A strategy that is known fails only with parameters at fault, since what has
no outcome has errors. -/
theorem names_of_compile {name : String} {params : Members} {error : RuleError}
    (failed : compile name params = .error error) : error.Names name := by
  cases named : Strategy.ofName? name with
  | none =>
      rw [compile_of_unknown named params] at failed
      cases failed
      exact .unknown named
  | some strategy =>
      by_cases faultless : strategy.faults params = []
      · obtain ⟨condition, compiled⟩ := exists_compile_of_no_faults named faultless
        rw [compiled] at failed
        cases failed
      · rw [compile_of_faults named faultless] at failed
        cases failed
        exact .params named faultless

theorem compile_unknown_iff (name : String) (params : Members) (other : String) :
    compile name params = .error (.unknownStrategy other) ↔
      Strategy.ofName? name = none ∧ name = other := by
  constructor
  · intro failed
    cases names_of_compile failed with
    | unknown absent => exact ⟨absent, rfl⟩
  · rintro ⟨absent, rfl⟩
    exact compile_of_unknown absent params

end Condition

/-! ### Errors of sets -/

/-- What an error says is wrong with rules that were to be compiled with a limit:
there are too many, or some have errors by themselves. -/
inductive RuleError.NamesRules (limit : Nat) (rules : List Rule) : RuleError → Prop where
  | tooLarge (exceeds : limit < rules.length) : NamesRules limit rules (.tooLarge rules.length limit)
  | rejected {rejected : List RejectedRule} (some : rejected ≠ [])
      (each : ∀ one ∈ rejected, ∃ rule ∈ rules, one.ruleId = rule.id ∧
        Condition.compile rule.strategy rule.params = .error one.error ∧
        one.error.Names rule.strategy) :
      NamesRules limit rules (.rejected rejected)

theorem RuleError.NamesRules.isCompilation {limit : Nat} {rules : List Rule} {error : RuleError}
    (names : error.NamesRules limit rules) : error.kind.isCompilation = true := by
  cases names <;> rfl

theorem Rule.error_of_rejection? {rule : Rule} {rejected : RejectedRule}
    (reported : rule.rejection? = some rejected) :
    rejected.ruleId = rule.id ∧
      Condition.compile rule.strategy rule.params = .error rejected.error := by
  unfold rejection? at reported
  cases compiled : Condition.compile rule.strategy rule.params with
  | ok condition =>
      rw [compiled] at reported
      cases reported
  | error error =>
      rw [compiled] at reported
      cases reported
      exact ⟨rfl, rfl⟩

namespace Compiler

theorem compile_eq_error_iff (compiler : Compiler) (rule : Rule) (error : RuleError) :
    (compiler.compile rule).1 = .error error ↔
      Condition.compile rule.strategy rule.params = .error error := by
  rcases compiler.compile_cases rule with
    ⟨known, isOf, _version, compiled⟩ | ⟨other, made, failed⟩
  · rw [compiled, isOf.condition]
    exact iff_of_false nofun nofun
  · rw [failed, made, Except.error.injEq, Except.error.injEq]

theorem compileSet_error_cases {compiler : Compiler} {rules : List Rule} {error : RuleError}
    (failed : (compiler.compileSet rules).1 = .error error) :
    (compiler.maxRules < rules.length ∧ error = .tooLarge rules.length compiler.maxRules) ∨
      (rules.filterMap Rule.rejection? ≠ [] ∧
        error = .rejected (rules.filterMap Rule.rejection?)) := by
  by_cases within : rules.length ≤ compiler.maxRules
  · rw [compileSet_of_within within, compileEach_rejected] at failed
    by_cases none : rules.filterMap Rule.rejection? = []
    · rw [if_pos none] at failed
      cases failed
    · rw [if_neg none] at failed
      exact .inr ⟨none, (Except.error.inj failed).symm⟩
  · have exceeds : compiler.maxRules < rules.length := Nat.not_le.mp within
    rw [compileSet_of_tooLarge exceeds] at failed
    exact .inl ⟨exceeds, (Except.error.inj failed).symm⟩

theorem names_of_compileSet {compiler : Compiler} {rules : List Rule} {error : RuleError}
    (failed : (compiler.compileSet rules).1 = .error error) :
    error.NamesRules compiler.maxRules rules := by
  rcases compileSet_error_cases failed with ⟨exceeds, rfl⟩ | ⟨some, rfl⟩
  · exact .tooLarge exceeds
  · refine .rejected some ?_
    intro one member
    obtain ⟨rule, among, reported⟩ := List.mem_filterMap.mp member
    obtain ⟨id, alone⟩ := Rule.error_of_rejection? reported
    exact ⟨rule, among, id, alone, Condition.names_of_compile alone⟩

theorem compileText_unreadable_iff (compiler : Compiler) (text : String) :
    (∃ error, (compiler.compileText text).1 = .error error ∧ error.kind = .unreadableRules) ↔
      ∀ rules, Rule.listDecoder.ofText text ≠ .ok rules := by
  rcases compiler.compileText_cases text with ⟨rules, read, same⟩ | ⟨cause, unread, same⟩
  · rw [same, read]
    refine iff_of_false ?_ fun none => none rules rfl
    rintro ⟨error, failed, kind⟩
    cases names_of_compileSet failed <;> cases kind
  · rw [same, unread]
    exact iff_of_true ⟨_, rfl, rfl⟩ nofun

end Compiler

/-! ### Errors of crafts -/

namespace Craft

theorem validate_eq_error_iff (craft : Craft) (error : RuleError) :
    craft.validate = .error error ↔
      ∃ quantity, craft.firstNotFinite? = some quantity ∧
        .malformedCraft (.notFinite quantity) = error := by
  unfold validate
  cases craft.firstNotFinite? with
  | none => simp
  | some quantity => simp

theorem kind_of_load_error {text : String} {error : RuleError} (failed : load text = .error error) :
    error.kind = .malformedCraft := by
  unfold load at failed
  cases read : Decoder.ofText decoder text with
  | error cause =>
      rw [read] at failed
      cases failed
      rfl
  | ok craft =>
      rw [read] at failed
      change (craft.completePartMap.validate >>= fun _ => pure craft.completePartMap) = _ at failed
      cases valid : craft.completePartMap.validate with
      | error other =>
          rw [valid] at failed
          cases failed
          obtain ⟨quantity, _infinite, same⟩ := (validate_eq_error_iff _ _).mp valid
          rw [← same]
          rfl
      | ok _checked =>
          rw [valid] at failed
          cases failed

end Craft

namespace Verdict

theorem judge_eq_error_iff (withTrace : Bool) (craft : Craft) (rules : List CompiledRule)
    (error : RuleError) :
    judge withTrace craft rules = .error error ↔
      ∃ quantity, craft.firstNotFinite? = some quantity ∧
        .malformedCraft (.notFinite quantity) = error := by
  rw [← Craft.validate_eq_error_iff]
  unfold judge
  cases craft.validate with
  | error other =>
      change Except.error other = .error error ↔ _
      rw [Except.error.injEq, Except.error.injEq]
  | ok _checked => exact iff_of_false nofun nofun

end Verdict

/-- The errors of each operation: of which kind they are, and what they say at
least. -/
structure Compiler.ErrorsInClass (compiler : Compiler) : Prop where
  ofCondition : ∀ name params error, Condition.compile name params = .error error →
    error.Names name ∧ error.kind.isCompilation = true
  ofUnknownCondition : ∀ name params other,
    Condition.compile name params = .error (.unknownStrategy other) ↔
      Strategy.ofName? name = none ∧ name = other
  ofRule : ∀ rule error, (compiler.compile rule).1 = .error error →
    error.Names rule.strategy ∧ error.kind.isCompilation = true
  ofUnknownRule : ∀ rule other,
    (compiler.compile rule).1 = .error (.unknownStrategy other) ↔
      Strategy.ofName? rule.strategy = none ∧ rule.strategy = other
  ofSet : ∀ rules error, (compiler.compileSet rules).1 = .error error →
    error.NamesRules compiler.maxRules rules ∧ error.kind.isCompilation = true
  ofText : ∀ text rules, Rule.listDecoder.ofText text = .ok rules → ∀ error,
    (compiler.compileText text).1 = .error error →
      error.NamesRules compiler.maxRules rules ∧ error.kind.isCompilation = true
  ofUnreadableText : ∀ text, (∀ rules, Rule.listDecoder.ofText text ≠ .ok rules) ↔
    ∃ error, (compiler.compileText text).1 = .error error ∧ error.kind = .unreadableRules
  ofLoading : ∀ text error, Craft.load text = .error error →
    error.kind = .malformedCraft
  ofJudging : ∀ withTrace craft rules error, Verdict.judge withTrace craft rules = .error error →
    error.kind = .malformedCraft ∧ ∃ quantity, craft.firstNotFinite? = some quantity
  apart : ErrorKind.unreadableRules.isCompilation = false ∧
    ErrorKind.malformedCraft.isCompilation = false
  loadedIsJudged : ∀ text craft, Craft.load text = .ok craft → ∀ withTrace rules,
    ∃ verdict, Verdict.judge withTrace craft rules = .ok verdict

/-- Whatever a compiler is given, its errors and those of crafts stay in their
class, and none of them is blank. -/
theorem Compiler.errorsInClass (compiler : Compiler) : compiler.ErrorsInClass where
  ofCondition := by
    intro name params error failed
    have names := Condition.names_of_compile failed
    exact ⟨names, names.isCompilation⟩
  ofUnknownCondition := Condition.compile_unknown_iff
  ofRule := by
    intro rule error failed
    have names := Condition.names_of_compile ((compiler.compile_eq_error_iff rule error).mp failed)
    exact ⟨names, names.isCompilation⟩
  ofUnknownRule := by
    intro rule other
    rw [compile_eq_error_iff, Condition.compile_unknown_iff]
  ofSet := by
    intro rules error failed
    have names := names_of_compileSet failed
    exact ⟨names, names.isCompilation⟩
  ofText := by
    intro text rules read error failed
    rcases compiler.compileText_cases text with ⟨others, alsoRead, same⟩ | ⟨cause, unread, _same⟩
    · cases read.symm.trans alsoRead
      rw [same] at failed
      have names := names_of_compileSet failed
      exact ⟨names, names.isCompilation⟩
    · cases read.symm.trans unread
  ofUnreadableText := fun text => (compiler.compileText_unreadable_iff text).symm
  ofLoading := fun _text _error => Craft.kind_of_load_error
  ofJudging := by
    intro withTrace craft rules error failed
    obtain ⟨quantity, infinite, same⟩ :=
      (Verdict.judge_eq_error_iff withTrace craft rules error).mp failed
    rw [← same]
    exact ⟨rfl, quantity, infinite⟩
  apart := ⟨rfl, rfl⟩
  loadedIsJudged := by
    intro text craft loaded withTrace rules
    obtain ⟨_decoded, _decoding, _complete, valid⟩ := (Craft.load_eq_ok_iff text craft).mp loaded
    exact ⟨_, Verdict.judge_of_valid withTrace craft rules valid⟩

end Scrutineer
