import Scrutineer.Condition.Explanation
import Scrutineer.Rule.Basic
import Scrutineer.Rule.Condition

/-! Compiling stored rules. A compiler numbers the rules that it compiles and limits
the size of a set; neither has any part in what a rule means. A set of rules is
compiled whole or not at all, and all its faulty rules are reported. -/

namespace Scrutineer

structure CompiledRule where
  id : String
  strategy : Strategy
  condition : Condition
  version : UInt64
deriving DecidableEq

namespace CompiledRule

def holds (rule : CompiledRule) (craft : Craft) : Bool :=
  rule.condition.holds craft

def explain (rule : CompiledRule) : String :=
  rule.condition.explain

def failureMessage (rule : CompiledRule) (craft : Craft) : String :=
  rule.condition.failureMessage craft

end CompiledRule

/-! ### Compilers -/

/-- A compiler: how many rules it has compiled, and how many a set may have. -/
structure Compiler where
  version : UInt64
  maxRules : Nat
deriving DecidableEq

namespace Compiler

def defaultMaxRules : Nat := 256

def fresh : Compiler := { version := 0, maxRules := defaultMaxRules }

def withMaxRules (compiler : Compiler) (maxRules : Nat) : Compiler :=
  { compiler with maxRules }

/-- Compiles one rule. A rule that compiles gets the next number; one that does
not leaves the compiler as it was. -/
def compile (compiler : Compiler) (rule : Rule) : Except RuleError CompiledRule × Compiler :=
  match Strategy.ofName? rule.strategy, Condition.compile rule.strategy rule.params with
  | some strategy, .ok condition =>
      let version := compiler.version + 1
      (.ok { id := rule.id, strategy, condition, version }, { compiler with version })
  | _, .error error => (.error error, compiler)
  | none, _ => (.error (.unknownStrategy rule.strategy), compiler)

/-- Compiles rules one after the other, whether they fail or not. -/
def compileEach (compiler : Compiler) :
    List Rule → List CompiledRule × List RejectedRule × Compiler
  | [] => ([], [], compiler)
  | rule :: rest =>
      let (outcome, next) := compiler.compile rule
      let (compiled, rejected, last) := next.compileEach rest
      match outcome with
      | .ok known => (known :: compiled, rejected, last)
      | .error error => (compiled, { ruleId := rule.id, error } :: rejected, last)

def compileSet (compiler : Compiler) (rules : List Rule) :
    Except RuleError (List CompiledRule) × Compiler :=
  if compiler.maxRules < rules.length then
    (.error (.tooLarge rules.length compiler.maxRules), compiler)
  else
    match compiler.compileEach rules with
    | (compiled, [], last) => (.ok compiled, last)
    | (_, rejected, last) => (.error (.rejected rejected), last)

def compileText (compiler : Compiler) (text : String) :
    Except RuleError (List CompiledRule) × Compiler :=
  match Rule.listDecoder.ofText text with
  | .ok rules => compiler.compileSet rules
  | .error cause => (.error (.unreadableRules cause), compiler)

end Compiler

end Scrutineer
