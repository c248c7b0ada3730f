import Scrutineer.Json.Document
import Scrutineer.Rule.Compiler
import Scrutineer.Settings.Environment
import Scrutineer.Settings.File.Basic
import Scrutineer.Settings.File.Sections

/-! The settings of the program and where they come from. Settings have fallbacks.
Over them lie, in this order, the file of defaults, the file of the environment that
the program runs in, the file of the service, and the environment variables. -/

namespace Scrutineer

structure EngineSettings where
  traceEnabled : Bool
  maxRules : Nat
deriving DecidableEq

structure LogSettings where
  serviceName : String
  logLevel : String
  jsonLogs : Bool
deriving DecidableEq

structure Settings where
  serviceName : String
  environment : String
  engine : EngineSettings
  log : LogSettings
deriving DecidableEq

inductive SettingsError where
  | malformedFile (name : String)
  | unusable (names : List String)
deriving DecidableEq

namespace SettingsError

def message : SettingsError → String
  | .malformedFile name => "cannot read the settings in " ++ name
  | .unusable names => "unusable value of " ++ String.intercalate "." names

end SettingsError

namespace EngineSettings

def fallback : EngineSettings :=
  { traceEnabled := false, maxRules := Compiler.defaultMaxRules }

end EngineSettings

namespace LogSettings

def fallback : LogSettings :=
  { serviceName := "", logLevel := "info", jsonLogs := false }

end LogSettings

inductive FileForm where
  | tables
  | sections
  | json
deriving DecidableEq

def FileForm.read? (form : FileForm) (text : String) : Option (List (String × Setting)) :=
  match form with
  | .tables => SettingsFile.read? text
  | .sections => SectionsFile.read? text
  | .json =>
      match (Json.ofText? text).map Setting.ofJson with
      | some (.group entries) => some entries
      | _ => none

namespace Settings

def fallback : Settings :=
  { serviceName := "", environment := "", engine := .fallback, log := .fallback }

def usualEnvironment : String := "development"

def withLogLevel (settings : Settings) (level : String) : Settings :=
  { settings with log := { settings.log with logLevel := level } }

/-! ### Files -/

def fileEnding : String := ".toml"

/-- The endings of files that are taken in the place of a missing one when they
stand behind its name, and the form of such a file. -/
def secondEndings : List (String × FileForm) :=
  [(".toml", .tables), (".ini", .sections), (".json", .json), (".json5", .json),
    (".ron", .json), (".yaml", .json), (".yml", .json)]

def fileNames (source : String) : List String :=
  let name := source ++ fileEnding
  name :: secondEndings.map fun ending => name ++ ending.1

/-- Whether a source has a name of its own in front of the ending. A file that
is called like the ending alone has none, and is passed over. -/
def isNamed (source : String) : Bool :=
  match source.toList.getLast? with
  | none => false
  | some last => last != '/'

def ofFile (name text : String) (form : FileForm) :
    Except SettingsError (List (String × Setting)) :=
  let content :=
    match text.toList with
    | '\ufeff' :: rest => String.ofList rest
    | _ => text
  match form.read? content with
  | some known => .ok known
  | none => .error (.malformedFile name)

def ofSource (file : String → Option String) (source : String) :
    Except SettingsError (List (String × Setting)) :=
  let name := source ++ fileEnding
  match file name with
  | some text => if isNamed source then ofFile name text .tables else .ok []
  | none =>
      match secondEndings.find? fun ending => (file (name ++ ending.1)).isSome with
      | none => .ok []
      | some (ending, form) => ofFile (name ++ ending) ((file (name ++ ending)).getD "") form

/-! ### Reading -/

def readRecord (path fields : List String) (setting : Setting) :
    Except SettingsError (String → Option Setting) :=
  match setting.fields? fields with
  | some field => .ok field
  | none => .error (.unusable path)

def read {Value : Type} (path : List String) (convert : Setting → Option Value)
    (fallback : Value) (setting : Option Setting) : Except SettingsError Value :=
  match setting with
  | none => .ok fallback
  | some held =>
      match convert held with
      | some value => .ok value
      | none => .error (.unusable path)

def readEngine (setting : Setting) : Except SettingsError EngineSettings := do
  let field ← readRecord ["engine"] ["trace_enabled", "max_rules"] setting
  let traceEnabled ← read ["engine", "trace_enabled"] Setting.asTruth?
    EngineSettings.fallback.traceEnabled (field "trace_enabled")
  let maxRules ← read ["engine", "max_rules"] Setting.asNat?
    EngineSettings.fallback.maxRules (field "max_rules")
  return { traceEnabled, maxRules }

def readLog (setting : Setting) : Except SettingsError LogSettings := do
  let field ← readRecord ["observability"] ["service_name", "log_level", "json_logs"] setting
  let serviceName ← read ["observability", "service_name"] Setting.asText?
    LogSettings.fallback.serviceName (field "service_name")
  let logLevel ← read ["observability", "log_level"] Setting.asText?
    LogSettings.fallback.logLevel (field "log_level")
  let jsonLogs ← read ["observability", "json_logs"] Setting.asTruth?
    LogSettings.fallback.jsonLogs (field "json_logs")
  return { serviceName, logLevel, jsonLogs }

def named (serviceName : String) (log : LogSettings) : LogSettings :=
  if log.serviceName = "" then { log with serviceName } else log

def ofSetting (tree : Setting) : Except SettingsError Settings := do
  let field ← readRecord [] ["service_name", "environment", "engine", "observability"] tree
  let serviceName ← read ["service_name"] Setting.asText? fallback.serviceName
    (field "service_name")
  let environment ← read ["environment"] Setting.asText? fallback.environment
    (field "environment")
  let engine ← ((field "engine").map readEngine).getD (.ok fallback.engine)
  let log ← ((field "observability").map readLog).getD (.ok fallback.log)
  return { serviceName, environment, engine, log := named serviceName log }

/-! ### Loading -/

def load (service : String) (file : String → Option String)
    (exported : List (String × String)) : Except SettingsError Settings := do
  let environment := (exported.lookup "CRAFT_ENV").getD usualEnvironment
  let base := [("service_name", .text service), ("environment", .text environment)]
  let common ← ofSource file "default"
  let special ← ofSource file environment
  let own ← ofSource file service
  let overriding := exported.filterMap fun (name, value) => SettingVariable.setting? name value
  ofSetting ((Setting.group []).assignAll (base ++ common ++ special ++ own ++ overriding))

end Settings
end Scrutineer
