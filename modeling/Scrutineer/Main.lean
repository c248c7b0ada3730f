import Scrutineer.Command.Run
import Std.Time.Format

/-! The program: words, files and environment variables in, printed lines and an exit
code out. Nothing is decided here. -/

namespace Scrutineer
namespace Program

def usage : String :=
  "Validate craft designs against competition rules\n\n" ++
    "Usage: craft-validate [-l LEVEL] evaluate -c CRAFT -r RULES [-f text|json] [--trace]\n" ++
    "       craft-validate [-l LEVEL] check -r RULES\n" ++
    "       craft-validate [-l LEVEL] strategies"

def variableNames : List String :=
  ["CRAFT_ENV", "CRAFT_SERVICE_NAME", "CRAFT_ENVIRONMENT", "CRAFT_ENGINE",
    "CRAFT_ENGINE__TRACE_ENABLED", "CRAFT_ENGINE__MAX_RULES", "CRAFT_OBSERVABILITY",
    "CRAFT_OBSERVABILITY__SERVICE_NAME", "CRAFT_OBSERVABILITY__LOG_LEVEL",
    "CRAFT_OBSERVABILITY__JSON_LOGS"]

def usualVariables : IO (List (String × String)) := do
  let mut found := []
  for name in variableNames do
    match ← IO.getEnv name with
    | some value => found := found ++ [(name, value)]
    | none => pure ()
  return found

def variableOf (line : String) : Option (String × String) :=
  match line.splitOn "=" with
  | name :: first :: more => some (name, String.intercalate "=" (first :: more))
  | _ => none

/-- All environment variables where the system lists them in a file, and else
those with usual names. -/
def exportedVariables : IO (List (String × String)) := do
  try
    let listing ← IO.FS.readFile "/proc/self/environ"
    return (listing.splitOn "\x00").filterMap variableOf
  catch _ => usualVariables

def readText (path : String) : IO (Except String String) := do
  try
    return .ok (← IO.FS.readFile path)
  catch error =>
    match error with
    | .noFileOrDirectory .. => return .error "No such file or directory (os error 2)"
    | other => return .error (toString other)

def loadSettings (service : String) : IO Settings := do
  let known ← exportedVariables
  let directory := (← IO.getEnv "CONFIG_DIR").getD "config"
  let environment := (known.lookup "CRAFT_ENV").getD Settings.usualEnvironment
  let mut files := []
  for source in ["default", environment, service] do
    for name in Settings.fileNames source do
      match ← readText (directory ++ "/" ++ name) with
      | .ok text => files := files ++ [(name, text)]
      | .error _ => pure ()
  match Settings.load service (fun name => files.lookup name) known with
  | .ok settings => return settings
  | .error error =>
      IO.eprintln ("Failed to load config, using defaults: " ++ error.message)
      return .fallback

def filesOf : Command → List String
  | .evaluate craft rules _ _ => [craft, rules]
  | .check rules => [rules]
  | .strategies => []

def runCommand (settings : Settings) (command : Command) : IO UInt32 := do
  let started ← IO.monoMsNow
  let mut texts := []
  for path in filesOf command do
    texts := texts ++ [(path, ← readText path)]
  let files : FileReader := fun path => (texts.lookup path).getD (.error "not read")
  let moment :=
    (Std.Time.DateTime.ofTimestamp (← Std.Time.Timestamp.now) .UTC).format
      "uuuu-MM-dd'T'HH:mm:ss.SSSSSSSSS'Z'"
  let timing : Timing := { milliseconds := (← IO.monoMsNow) - started, moment }
  match command.run settings.engine files timing with
  | .ok report =>
      for line in report.lines do
        IO.println line
      return report.code.toUInt32
  | .error error =>
      IO.eprintln ("error: " ++ error.message)
      return 2

end Program
end Scrutineer

open Scrutineer in
def main (words : List String) : IO UInt32 := do
  match Invocation.ofWords words with
  | .ok invocation =>
      let loaded ← Program.loadSettings "craft-validate"
      let settings :=
        match invocation.logLevel with
        | some level => loaded.withLogLevel level
        | none => loaded
      Program.runCommand settings invocation.command
  | .error .helpRequested =>
      IO.println Program.usage
      return 0
  | .error .versionRequested =>
      IO.println "craft-validate 0.1.0"
      return 0
  | .error _ =>
      IO.eprintln Program.usage
      return 2
