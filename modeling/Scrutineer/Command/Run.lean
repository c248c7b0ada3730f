import Scrutineer.Command.Arguments
import Scrutineer.Json.Printer
import Scrutineer.Settings.Basic
import Scrutineer.Verdict

/-! Running commands. A command reads the files that it names and gives what is to be
printed and the exit code: zero when all is well, one when a rule failed or does not
compile. A command that cannot be carried out gives its complaint instead. -/

namespace Scrutineer

structure Report where
  lines : List String
  code : Nat
deriving DecidableEq

structure Timing where
  milliseconds : Nat
  moment : String

inductive CommandError where
  | noFile (what path reason : String)
  | rules (path : String) (error : RuleError)
  | check (error : RuleError)
  | craft (path : String) (error : RuleError)
  | judge (error : RuleError)

namespace CommandError

/-- What is wrong with a set of rules, followed by its cause when there are none. -/
def chained (error : RuleError) : String :=
  match error with
  | .unreadableRules cause => error.message ++ ": " ++ cause.message
  | other => other.message

/-- The complaint, from the outside in. -/
def message : CommandError → String
  | .noFile what path reason => "failed to read " ++ what ++ " from " ++ path ++ ": " ++ reason
  | .rules path error => "failed to compile rules from " ++ path ++ ": " ++ chained error
  | .check error => chained error
  | .craft path error => "failed to load craft from " ++ path ++ ": " ++ error.message
  | .judge error => error.message

end CommandError

abbrev FileReader := String → Except String String

/-! ### Printing -/

namespace Verdict

def lines (verdict : Verdict) : List String :=
  let outcome :=
    if verdict.passed then ["PASS (" ++ toString verdict.evaluated ++ " rules evaluated)"]
    else
      ("FAIL (" ++ toString verdict.failures.length ++ " of " ++ toString verdict.evaluated ++
          " rules failed)") ::
        verdict.failures.map fun failure => "  [" ++ failure.ruleId ++ "] " ++ failure.message
  outcome ++ verdict.trace.map ("  trace: " ++ ·)

def toJson (verdict : Verdict) (timing : Timing) : Json :=
  .object (verdict.members ++
    [("evaluation_time_ms", .ofNat timing.milliseconds), ("evaluated_at", .text timing.moment)])

def print (verdict : Verdict) (timing : Timing) : OutputFormat → List String
  | .text => verdict.lines
  | .json => [(verdict.toJson timing).pretty]

end Verdict

/-- The lines of a rule that does not compile: the strategy with one line for
each parameter at fault, or the complaint. -/
def RejectedRule.lines (rejected : RejectedRule) : List String :=
  match rejected.error with
  | .invalidParams strategy errors =>
      ("  [" ++ rejected.ruleId ++ "] " ++ strategy) ::
        errors.map fun error => "      " ++ error.message
  | other => ["  [" ++ rejected.ruleId ++ "] " ++ other.message]

def Strategy.line (strategy : Strategy) : String :=
  strategy.name ++ String.ofList (List.replicate (24 - strategy.name.length) ' ') ++ " " ++
    String.intercalate ", " strategy.paramKeys

/-! ### Commands -/

namespace Command

def compiler (settings : EngineSettings) : Compiler :=
  Compiler.fresh.withMaxRules settings.maxRules

def readFile (files : FileReader) (what path : String) : Except CommandError String :=
  (files path).mapError (.noFile what path)

def runEvaluate (settings : EngineSettings) (files : FileReader) (timing : Timing)
    (craftPath rulesPath : String) (format : OutputFormat) (trace : Bool) :
    Except CommandError Report := do
  let rulesText ← readFile files "rules" rulesPath
  let rules ← ((compiler settings).compileText rulesText).1.mapError (.rules rulesPath)
  let craftText ← readFile files "craft" craftPath
  let craft ← (Craft.load craftText).mapError (.craft craftPath)
  let verdict ← (Verdict.judge (trace || settings.traceEnabled) craft rules).mapError .judge
  return { lines := verdict.print timing format, code := if verdict.passed then 0 else 1 }

def runCheck (settings : EngineSettings) (files : FileReader) (rulesPath : String) :
    Except CommandError Report := do
  let rulesText ← readFile files "rules" rulesPath
  match ((compiler settings).compileText rulesText).1 with
  | .ok rules => return { lines := ["OK: " ++ toString rules.length ++ " rules compiled"], code := 0 }
  | .error (.rejected rejected) =>
      return {
        lines := ("REJECTED: " ++ toString rejected.length ++ " rules failed to compile") ::
          rejected.flatMap RejectedRule.lines
        code := 1 }
  | .error other => .error (.check other)

def run (settings : EngineSettings) (files : FileReader) (timing : Timing) :
    Command → Except CommandError Report
  | .evaluate craft rules format trace => runEvaluate settings files timing craft rules format trace
  | .check rules => runCheck settings files rules
  | .strategies => .ok { lines := Strategy.all.map Strategy.line, code := 0 }

end Command
end Scrutineer
