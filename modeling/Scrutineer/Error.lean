import Scrutineer.Json.DecodeError

/-! A rule fails on its strategy or on its parameters; every parameter at fault is
reported. A set of rules fails on its size, or on the rules in it that fail, all of
them reported. These are errors of compilation; a text that holds no rules is none of
them, and neither is a craft that cannot be judged. -/

namespace Scrutineer

inductive ParamFault where
  | missing
  | empty
  | notANumber (text : String)
  | notAnInteger (text : String)
  | unknownOperator (text : String)
  | unknownMatcher (text : String)
  | unknownLocation (text : String)
  | wrongType (expected actual : String)
  | emptyPartSet
  /-- A rule inside of the parameter fails, with its message. -/
  | nested (message : String)
deriving DecidableEq

namespace ParamFault

def message : ParamFault → String
  | .missing => "required parameter is missing"
  | .empty => "value is empty after sanitization"
  | .notANumber text => "'" ++ text ++ "' is not a number"
  | .notAnInteger text => "'" ++ text ++ "' is not an integer"
  | .unknownOperator text =>
      "unknown operator '" ++ text ++ "' (expected lt, lte, gt, gte, eq, neq)"
  | .unknownMatcher text => "unknown matcher '" ++ text ++ "' (expected none, any, all)"
  | .unknownLocation text => "unknown location '" ++ text ++ "' (expected sph, vab)"
  | .wrongType expected actual => "expected " ++ expected ++ ", got " ++ actual
  | .emptyPartSet => "part set must name at least one part"
  | .nested message => message

end ParamFault

structure ParamError where
  key : String
  fault : ParamFault
deriving DecidableEq

def ParamError.message (error : ParamError) : String :=
  error.key ++ ": " ++ error.fault.message

inductive CraftFault where
  | unreadable (cause : Unreadable)
  | notFinite (quantity : String)

def CraftFault.message : CraftFault → String
  | .unreadable cause => cause.message
  | .notFinite quantity => quantity ++ " is not a finite number"

structure Rejected (Error : Type) where
  ruleId : String
  error : Error

inductive RuleError where
  | unknownStrategy (name : String)
  | invalidParams (strategy : String) (errors : List ParamError)
  | rejected (rules : List (Rejected RuleError))
  | tooLarge (count limit : Nat)
  | malformedCraft (fault : CraftFault)
  | unreadableRules (cause : Unreadable)

abbrev RejectedRule := Rejected RuleError

namespace RuleError

mutual

def message : RuleError → String
  | .unknownStrategy name => "unknown strategy: " ++ name
  | .invalidParams strategy errors =>
      "invalid params for strategy " ++ strategy ++ ": " ++
        String.intercalate "; " (errors.map ParamError.message)
  | .rejected rules => "rule set rejected: " ++ String.intercalate "; " (messages rules)
  | .tooLarge count limit =>
      "rule set too large: " ++ toString count ++ " rules, at most " ++ toString limit ++ " allowed"
  | .malformedCraft fault => "malformed craft: " ++ fault.message
  | .unreadableRules cause => "JSON error: " ++ cause.message

def messages : List (Rejected RuleError) → List String
  | [] => []
  | ⟨ruleId, error⟩ :: rest => ("[" ++ ruleId ++ "] " ++ error.message) :: messages rest

end

end RuleError

def RejectedRule.message (rejected : RejectedRule) : String :=
  "[" ++ rejected.ruleId ++ "] " ++ rejected.error.message

/-! ### Kinds of errors -/

inductive ErrorKind where
  | unknownStrategy
  | invalidParams
  | ruleSetRejected
  | ruleSetTooLarge
  | malformedCraft
  | unreadableRules
deriving DecidableEq

def ErrorKind.isCompilation : ErrorKind → Bool
  | .unknownStrategy | .invalidParams | .ruleSetRejected | .ruleSetTooLarge => true
  | .malformedCraft | .unreadableRules => false

def RuleError.kind : RuleError → ErrorKind
  | .unknownStrategy _ => .unknownStrategy
  | .invalidParams _ _ => .invalidParams
  | .rejected _ => .ruleSetRejected
  | .tooLarge _ _ => .ruleSetTooLarge
  | .malformedCraft _ => .malformedCraft
  | .unreadableRules _ => .unreadableRules

end Scrutineer
