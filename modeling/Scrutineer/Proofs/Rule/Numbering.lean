import Scrutineer.Proofs.Rule.RuleSet

/-! A compiler gives each rule that compiles the next number, whether or not the rule
belongs to a set that is accepted in the end, and no number for a rule that does not
compile. The rules that a compiler returns in the course of any requests therefore
carry increasing numbers, as long as the sixty-four bits of its counter last, and what
a rule means depends neither on the numbers nor on the limit of the compiler. -/

namespace Scrutineer

/-! ### What becomes of one rule -/

namespace Rule

def rejection? (rule : Rule) : Option RejectedRule :=
  match Condition.compile rule.strategy rule.params with
  | .ok _ => none
  | .error error => some { ruleId := rule.id, error }

def isAccepted (rule : Rule) : Bool :=
  rule.rejection?.isNone

theorem rejection?_of_error {rule : Rule} {error : RuleError}
    (failed : Condition.compile rule.strategy rule.params = .error error) :
    rule.rejection? = some { ruleId := rule.id, error } := by
  unfold rejection?
  rw [failed]

theorem rejection?_eq_none_iff (rule : Rule) : rule.rejection? = none ↔ rule.Compiles := by
  unfold rejection? Compiles
  cases Condition.compile rule.strategy rule.params with
  | ok condition => simp
  | error error => simp

theorem isAccepted_iff (rule : Rule) : rule.isAccepted = true ↔ rule.Compiles := by
  rw [isAccepted, Option.isNone_iff_eq_none, rejection?_eq_none_iff]

theorem not_isAccepted_of_error {rule : Rule} {error : RuleError}
    (failed : Condition.compile rule.strategy rule.params = .error error) :
    ¬rule.isAccepted = true := by
  rw [isAccepted, rejection?_of_error failed]
  exact Bool.false_ne_true

end Rule

theorem CompiledRule.IsOf.isAccepted {known : CompiledRule} {rule : Rule} (isOf : known.IsOf rule) :
    rule.isAccepted = true :=
  rule.isAccepted_iff.mpr ⟨known.condition, isOf.condition⟩

/-! ### Counting on -/

namespace UInt64

theorem toNat_add_ofNat {start : UInt64} {count : Nat} (fits : start.toNat + count < 2 ^ 64) :
    (start + .ofNat count).toNat = start.toNat + count := by
  rw [UInt64.toNat_add, UInt64.toNat_ofNat']
  omega

theorem add_one_add_ofNat (start : UInt64) (count : Nat) :
    start + 1 + .ofNat count = start + .ofNat (count + 1) := by
  rw [UInt64.add_assoc, Nat.add_comm, UInt64.ofNat_add]
  rfl

def following (start : UInt64) : Nat → List UInt64
  | 0 => []
  | count + 1 => (start + 1) :: following (start + 1) count

theorem map_toNat_following {start : UInt64} {count : Nat}
    (fits : start.toNat + count < 2 ^ 64) :
    (following start count).map UInt64.toNat = List.range' (start.toNat + 1) count := by
  induction count generalizing start with
  | zero => rfl
  | succ count ih =>
      have next : (start + 1).toNat = start.toNat + 1 :=
        @toNat_add_ofNat start 1 (by omega)
      rw [following, List.map_cons, List.range'_succ, ih (by omega), next]

end UInt64

namespace Compiler

/-- One rule takes the next number, or fails with its own error and takes none. -/
structure CompilesAlone (compiler : Compiler) (rule : Rule) : Prop where
  accepts : rule.Compiles →
    ∃ known : CompiledRule, known.IsOf rule ∧ known.version = compiler.version + 1 ∧
      compiler.compile rule = (.ok known, { compiler with version := compiler.version + 1 })
  rejects : ∀ error, Condition.compile rule.strategy rule.params = .error error →
    compiler.compile rule = (.error error, compiler)
  ownCondition : (compiler.compile rule).1.map CompiledRule.condition =
    Condition.compile rule.strategy rule.params

theorem compilesAlone (compiler : Compiler) (rule : Rule) : compiler.CompilesAlone rule where
  accepts := by
    intro given
    rcases given with ⟨condition, made⟩
    rcases compiler.compile_cases rule with
      ⟨known, isOf, version, compiled⟩ | ⟨error, impossible, _failed⟩
    · exact ⟨known, isOf, version, compiled⟩
    · rw [made] at impossible
      cases impossible
  rejects := compile_of_error compiler rule
  ownCondition := by
    rcases compiler.compile_cases rule with
      ⟨known, isOf, _version, compiled⟩ | ⟨error, made, failed⟩
    · rw [compiled, isOf.condition]
      rfl
    · rw [failed, made]
      rfl

/-! ### What becomes of rules one after the other -/

theorem compileEach_rejected (compiler : Compiler) (rules : List Rule) :
    (compiler.compileEach rules).2.1 = rules.filterMap Rule.rejection? := by
  induction rules generalizing compiler with
  | nil => rfl
  | cons rule rest ih =>
      rcases compiler.compile_cases rule with
        ⟨known, isOf, _version, compiled⟩ | ⟨error, made, failed⟩
      · have accepted := (rule.rejection?_eq_none_iff).mpr ⟨known.condition, isOf.condition⟩
        rw [compileEach_cons_ok compiler _ rule rest known compiled, List.filterMap_cons, accepted]
        exact ih _
      · rw [compileEach_cons_error compiler _ rule rest error failed, List.filterMap_cons,
          Rule.rejection?_of_error made]
        exact congrArg _ (ih compiler)

theorem compileEach_last (compiler : Compiler) (rules : List Rule) :
    (compiler.compileEach rules).2.2 =
      { compiler with version := compiler.version + .ofNat (rules.countP Rule.isAccepted) } := by
  induction rules generalizing compiler with
  | nil => exact congrArg (Compiler.mk · compiler.maxRules) (UInt64.add_zero _).symm
  | cons rule rest ih =>
      rcases compiler.compile_cases rule with
        ⟨known, isOf, _version, compiled⟩ | ⟨error, made, failed⟩
      · rw [compileEach_cons_ok compiler _ rule rest known compiled,
          List.countP_cons_of_pos isOf.isAccepted, ← UInt64.add_one_add_ofNat]
        exact ih { compiler with version := compiler.version + 1 }
      · rw [compileEach_cons_error compiler _ rule rest error failed,
          List.countP_cons_of_neg (Rule.not_isAccepted_of_error made)]
        exact ih compiler

/-- The rules that compile are numbered without a gap, also when others fail. -/
theorem compileEach_versions (compiler : Compiler) (rules : List Rule) :
    (compiler.compileEach rules).1.map CompiledRule.version =
      UInt64.following compiler.version (rules.countP Rule.isAccepted) := by
  induction rules generalizing compiler with
  | nil => rfl
  | cons rule rest ih =>
      rcases compiler.compile_cases rule with
        ⟨known, isOf, version, compiled⟩ | ⟨error, made, failed⟩
      · have later := ih { compiler with version := compiler.version + 1 }
        rw [compileEach_cons_ok compiler _ rule rest known compiled,
          List.countP_cons_of_pos isOf.isAccepted, UInt64.following, List.map_cons, version]
        exact congrArg _ later
      · rw [compileEach_cons_error compiler _ rule rest error failed,
          List.countP_cons_of_neg (Rule.not_isAccepted_of_error made)]
        exact ih compiler

theorem compileEach_conditions (compiler : Compiler) (rules : List Rule) :
    (compiler.compileEach rules).1.map CompiledRule.condition =
      rules.filterMap fun rule => (Condition.compile rule.strategy rule.params).toOption := by
  induction rules generalizing compiler with
  | nil => rfl
  | cons rule rest ih =>
      rw [List.filterMap_cons]
      rcases compiler.compile_cases rule with
        ⟨known, isOf, _version, compiled⟩ | ⟨error, made, failed⟩
      · rw [compileEach_cons_ok compiler _ rule rest known compiled, isOf.condition]
        exact congrArg _ (ih _)
      · rw [compileEach_cons_error compiler _ rule rest error failed, made]
        exact ih compiler

/-! ### What becomes of a set -/

theorem compileSet_of_tooLarge {compiler : Compiler} {rules : List Rule}
    (tooLarge : compiler.maxRules < rules.length) :
    compiler.compileSet rules = (.error (.tooLarge rules.length compiler.maxRules), compiler) := by
  unfold compileSet
  rw [if_pos tooLarge]

theorem compileSet_of_within {compiler : Compiler} {rules : List Rule}
    (within : rules.length ≤ compiler.maxRules) :
    compiler.compileSet rules =
      (if (compiler.compileEach rules).2.1 = [] then .ok (compiler.compileEach rules).1
        else .error (.rejected (compiler.compileEach rules).2.1),
      (compiler.compileEach rules).2.2) := by
  unfold compileSet
  rw [if_neg (Nat.not_lt.mpr within)]
  rcases compiler.compileEach rules with ⟨compiled, rejected, last⟩
  cases rejected with
  | nil => rfl
  | cons first others => rfl

/-- A set is compiled whole or not at all. -/
structure CompilesWhole (compiler : Compiler) (rules : List Rule) : Prop where
  tooLarge : compiler.maxRules < rules.length →
    compiler.compileSet rules = (.error (.tooLarge rules.length compiler.maxRules), compiler)
  accepts : rules.length ≤ compiler.maxRules →
    ((∃ compiled, (compiler.compileSet rules).1 = .ok compiled) ↔ ∀ rule ∈ rules, rule.Compiles)
  inOrder : ∀ compiled, (compiler.compileSet rules).1 = .ok compiled →
    List.Forall₂ (fun rule known => known.IsOf rule) rules compiled ∧
      compiled.map CompiledRule.version = UInt64.following compiler.version rules.length
  consecutive : ∀ compiled, (compiler.compileSet rules).1 = .ok compiled →
    compiler.version.toNat + rules.length < 2 ^ 64 →
      compiled.map (fun known => known.version.toNat) =
        List.range' (compiler.version.toNat + 1) rules.length
  rejects : rules.length ≤ compiler.maxRules → (∃ rule ∈ rules, ¬rule.Compiles) →
    (compiler.compileSet rules).1 = .error (.rejected (rules.filterMap Rule.rejection?))
  counts : rules.length ≤ compiler.maxRules →
    (compiler.compileSet rules).2 =
      { compiler with version := compiler.version + .ofNat (rules.countP Rule.isAccepted) }
  ownConditions : ∀ other : Compiler, rules.length ≤ compiler.maxRules →
    rules.length ≤ other.maxRules →
    (compiler.compileSet rules).1.map (List.map CompiledRule.condition) =
      (other.compileSet rules).1.map (List.map CompiledRule.condition)

theorem versions_of_compileSet {compiler : Compiler} {rules : List Rule}
    {compiled : List CompiledRule} (accepted : (compiler.compileSet rules).1 = .ok compiled) :
    compiled.map CompiledRule.version = UInt64.following compiler.version rules.length := by
  obtain ⟨_within, compiles, same⟩ := (compileSet_eq_ok_iff compiler rules compiled).mp accepted
  have all : rules.countP Rule.isAccepted = rules.length :=
    List.countP_eq_length.mpr fun rule member => rule.isAccepted_iff.mpr (compiles rule member)
  rw [← same, compileEach_versions, all]

theorem compilesWhole (compiler : Compiler) (rules : List Rule) : compiler.CompilesWhole rules where
  tooLarge := compileSet_of_tooLarge
  accepts := by
    intro within
    constructor
    · intro given
      rcases given with ⟨compiled, accepted⟩
      exact ((compileSet_eq_ok_iff compiler rules compiled).mp accepted).2.1
    · exact exists_compileSet_eq_ok compiler rules within
  inOrder := by
    intro compiled accepted
    exact ⟨compileSet_forall₂ compiler rules compiled accepted, versions_of_compileSet accepted⟩
  consecutive := by
    intro compiled accepted fits
    rw [← UInt64.map_toNat_following fits, ← versions_of_compileSet accepted, List.map_map]
    rfl
  rejects := by
    intro within given
    rcases given with ⟨rule, member, fails⟩
    have some : rules.filterMap Rule.rejection? ≠ [] := by
      intro none
      exact fails (rule.rejection?_eq_none_iff.mp (List.filterMap_eq_nil_iff.mp none rule member))
    rw [compileSet_of_within within, compileEach_rejected, if_neg some]
  counts := by
    intro within
    rw [compileSet_of_within within, compileEach_last]
  ownConditions := by
    intro other within otherWithin
    rw [compileSet_of_within within, compileSet_of_within otherWithin, compileEach_rejected,
      compileEach_rejected]
    split
    · exact congrArg Except.ok
        ((compiler.compileEach_conditions rules).trans (other.compileEach_conditions rules).symm)
    · rfl

/-! ### Histories -/

inductive Request where
  | rule (rule : Rule)
  | set (rules : List Rule)
  | text (text : String)
  | limit (maxRules : Nat)

inductive Answer where
  | rule (outcome : Except RuleError CompiledRule)
  | set (outcome : Except RuleError (List CompiledRule))
  | limited

def Answer.returned : Answer → List CompiledRule
  | .rule (.ok known) => [known]
  | .set (.ok compiled) => compiled
  | _ => []

def answer (compiler : Compiler) : Request → Answer × Compiler
  | .rule rule => ((.rule (compiler.compile rule).1), (compiler.compile rule).2)
  | .set rules => ((.set (compiler.compileSet rules).1), (compiler.compileSet rules).2)
  | .text text => ((.set (compiler.compileText text).1), (compiler.compileText text).2)
  | .limit maxRules => (.limited, compiler.withMaxRules maxRules)

def answerAll (compiler : Compiler) : List Request → List Answer × Compiler
  | [] => ([], compiler)
  | request :: rest =>
      let (first, next) := compiler.answer request
      let (others, last) := next.answerAll rest
      (first :: others, last)

/-- How many rules of a set are numbered, also when the set is rejected. -/
def numberedOf (compiler : Compiler) (rules : List Rule) : Nat :=
  if rules.length ≤ compiler.maxRules then rules.countP Rule.isAccepted else 0

def numbered (compiler : Compiler) : Request → Nat
  | .rule rule => [rule].countP Rule.isAccepted
  | .set rules => compiler.numberedOf rules
  | .text text => ((Rule.listDecoder.ofText text).toOption.map compiler.numberedOf).getD 0
  | .limit _ => 0

def numberedAll (compiler : Compiler) : List Request → Nat
  | [] => 0
  | request :: rest => compiler.numbered request + (compiler.answer request).2.numberedAll rest

/-- The compiled rules have increasing numbers, all after that of the compiler
before and none after that of the compiler afterwards. -/
structure Increases (before after : Compiler) (returned : List CompiledRule) : Prop where
  increasing : returned.Pairwise fun earlier later => earlier.version < later.version
  above : ∀ known ∈ returned, before.version < known.version
  upTo : ∀ known ∈ returned, known.version ≤ after.version
  grows : before.version ≤ after.version

/-- So many rules have been numbered, and the numbers of those that were returned
increase as long as all the numbers fit into a word. -/
structure Numbers (before after : Compiler) (count : Nat) (returned : List CompiledRule) :
    Prop where
  counted : after.version = before.version + .ofNat count
  increases : before.version.toNat + count < 2 ^ 64 → Increases before after returned

theorem Increases.append {before between after : Compiler} {earlier later : List CompiledRule}
    (first : Increases before between earlier) (second : Increases between after later) :
    Increases before after (earlier ++ later) where
  increasing := by
    refine List.pairwise_append.mpr ⟨first.increasing, second.increasing, ?_⟩
    intro one oneMember other otherMember
    exact UInt64.lt_of_le_of_lt (first.upTo one oneMember) (second.above other otherMember)
  above := by
    intro known member
    rcases List.mem_append.mp member with early | late
    · exact first.above known early
    · exact UInt64.lt_of_le_of_lt first.grows (second.above known late)
  upTo := by
    intro known member
    rcases List.mem_append.mp member with early | late
    · exact UInt64.le_trans (first.upTo known early) second.grows
    · exact second.upTo known late
  grows := UInt64.le_trans first.grows second.grows

namespace Numbers

variable {before between after : Compiler} {count more : Nat}
  {returned earlier later : List CompiledRule}

theorem toNat_after (numbers : Numbers before after count returned)
    (fits : before.version.toNat + count < 2 ^ 64) :
    after.version.toNat = before.version.toNat + count := by
  rw [numbers.counted, UInt64.toNat_add_ofNat fits]

theorem nothing (counted : after.version = before.version + .ofNat count) :
    Numbers before after count [] where
  counted := counted
  increases := by
    intro fits
    constructor
    · exact List.Pairwise.nil
    · exact List.forall_mem_nil _
    · exact List.forall_mem_nil _
    · rw [counted, UInt64.le_iff_toNat_le, UInt64.toNat_add_ofNat fits]
      exact Nat.le_add_right _ _

theorem everything (counted : after.version = before.version + .ofNat count)
    (versions : returned.map CompiledRule.version = UInt64.following before.version count) :
    Numbers before after count returned where
  counted := counted
  increases := by
    intro fits
    have range : returned.map (fun known => known.version.toNat) =
        List.range' (before.version.toNat + 1) count := by
      rw [← UInt64.map_toNat_following fits, ← versions, List.map_map]
      rfl
    have last : after.version.toNat = before.version.toNat + count := by
      rw [counted, UInt64.toNat_add_ofNat fits]
    have bounds : ∀ known ∈ returned, before.version.toNat + 1 ≤ known.version.toNat ∧
        known.version.toNat < before.version.toNat + 1 + count := by
      intro known member
      have inRange : known.version.toNat ∈ List.range' (before.version.toNat + 1) count :=
        range ▸ List.mem_map_of_mem member
      exact List.mem_range'_1.mp inRange
    have sorted : (List.range' (before.version.toNat + 1) count).Pairwise (· < ·) :=
      List.pairwise_lt_range'
    rw [← range, List.pairwise_map] at sorted
    constructor
    · exact sorted.imp UInt64.lt_iff_toNat_lt.mpr
    · intro known member
      have bounded := bounds known member
      rw [UInt64.lt_iff_toNat_lt]
      omega
    · intro known member
      have bounded := bounds known member
      rw [UInt64.le_iff_toNat_le]
      omega
    · rw [UInt64.le_iff_toNat_le]
      omega

theorem append (first : Numbers before between count earlier)
    (second : Numbers between after more later) :
    Numbers before after (count + more) (earlier ++ later) where
  counted := by rw [second.counted, first.counted, UInt64.add_assoc, UInt64.ofNat_add]
  increases := by
    intro fits
    have firstFits : before.version.toNat + count < 2 ^ 64 := by omega
    have middle := first.toNat_after firstFits
    exact (first.increases firstFits).append (second.increases (by omega))

end Numbers

theorem numbers_compile (compiler : Compiler) (rule : Rule) :
    Numbers compiler (compiler.compile rule).2 (compiler.numbered (.rule rule))
      (Answer.rule (compiler.compile rule).1).returned := by
  rcases compiler.compile_cases rule with
    ⟨known, isOf, version, compiled⟩ | ⟨error, made, failed⟩
  · have one : compiler.numbered (.rule rule) = 1 :=
      List.countP_cons_of_pos isOf.isAccepted
    rw [compiled, one]
    apply Numbers.everything
    · rfl
    · change [known.version] = [compiler.version + 1]
      rw [version]
  · have none : compiler.numbered (.rule rule) = 0 :=
      List.countP_cons_of_neg (Rule.not_isAccepted_of_error made)
    rw [failed, none]
    exact Numbers.nothing (UInt64.add_zero _).symm

theorem numbers_compileSet (compiler : Compiler) (rules : List Rule) :
    Numbers compiler (compiler.compileSet rules).2 (compiler.numberedOf rules)
      (Answer.set (compiler.compileSet rules).1).returned := by
  unfold numberedOf
  by_cases within : rules.length ≤ compiler.maxRules
  · have last := (compiler.compilesWhole rules).counts within
    rw [if_pos within, last]
    cases outcome : (compiler.compileSet rules).1 with
    | error error => exact Numbers.nothing rfl
    | ok compiled =>
        obtain ⟨_within, _compiles, same⟩ :=
          (compileSet_eq_ok_iff compiler rules compiled).mp outcome
        apply Numbers.everything rfl
        change compiled.map CompiledRule.version = _
        rw [← same, compileEach_versions]
  · rw [if_neg within, compileSet_of_tooLarge (Nat.not_le.mp within)]
    exact Numbers.nothing (UInt64.add_zero _).symm

/-- Rules from a text are compiled as the same rules without a text. A text that
cannot be read leaves the compiler as it is. -/
theorem compileText_cases (compiler : Compiler) (text : String) :
    (∃ rules, Rule.listDecoder.ofText text = .ok rules ∧
      compiler.compileText text = compiler.compileSet rules) ∨
    (∃ cause, Rule.listDecoder.ofText text = .error cause ∧
      compiler.compileText text = (.error (.unreadableRules cause), compiler)) := by
  unfold compileText
  cases Rule.listDecoder.ofText text with
  | ok rules => exact .inl ⟨rules, rfl, rfl⟩
  | error cause => exact .inr ⟨cause, rfl, rfl⟩

theorem numbers_answer (compiler : Compiler) (request : Request) :
    Numbers compiler (compiler.answer request).2 (compiler.numbered request)
      (compiler.answer request).1.returned := by
  unfold answer
  cases request with
  | rule rule =>
      dsimp only
      exact compiler.numbers_compile rule
  | set rules =>
      dsimp only
      exact compiler.numbers_compileSet rules
  | text text =>
      dsimp only [numbered]
      rcases compiler.compileText_cases text with ⟨rules, read, same⟩ | ⟨cause, unread, same⟩
      · rw [same, read]
        exact compiler.numbers_compileSet rules
      · rw [same, unread]
        exact Numbers.nothing (UInt64.add_zero _).symm
  | limit maxRules => exact Numbers.nothing (UInt64.add_zero _).symm

theorem numbers_answerAll (compiler : Compiler) (requests : List Request) :
    Numbers compiler (compiler.answerAll requests).2 (compiler.numberedAll requests)
      ((compiler.answerAll requests).1.flatMap Answer.returned) := by
  induction requests generalizing compiler with
  | nil => exact Numbers.nothing (UInt64.add_zero _).symm
  | cons request rest ih =>
      rw [answerAll, numberedAll, List.flatMap_cons]
      exact (compiler.numbers_answer request).append (ih (compiler.answer request).2)

/-- Whatever a compiler has done before: one rule takes the next number or none,
a set is compiled whole or not at all, a text like the set that it holds, and in
the course of any requests the rules handed out have increasing numbers. -/
theorem numbers_never_reused (compiler : Compiler) :
    (∀ rule, compiler.CompilesAlone rule) ∧
    (∀ rules, compiler.CompilesWhole rules) ∧
    (∀ text,
      (∃ rules, Rule.listDecoder.ofText text = .ok rules ∧
        compiler.compileText text = compiler.compileSet rules) ∨
      (∃ cause, Rule.listDecoder.ofText text = .error cause ∧
        compiler.compileText text = (.error (.unreadableRules cause), compiler))) ∧
    (∀ maxRules, (compiler.withMaxRules maxRules).version = compiler.version) ∧
    ∀ requests, Numbers compiler (compiler.answerAll requests).2 (compiler.numberedAll requests)
      ((compiler.answerAll requests).1.flatMap Answer.returned) := by
  refine ⟨?_, ?_, ?_, ?_, ?_⟩
  · exact compiler.compilesAlone
  · exact compiler.compilesWhole
  · exact compiler.compileText_cases
  · intro maxRules
    rfl
  · exact compiler.numbers_answerAll

end Compiler
end Scrutineer
