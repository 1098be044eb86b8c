import Itanium.CommandLine.Run
import Itanium.CommandLine.Standard

/-!
# Program

The program around a run: it fetches the files and variables that the run may ask for, prints what
the run prints and logs, and writes its trace.
-/

namespace Itanium.Program

open CommandLine

/-- An error that the system gives by its number, which may carry a minus sign. -/
def systemError (code : UInt32) (text : String) : FileError :=
  match (min code (0 - code)).toNat with
  | 2 => .notFound
  | 20 => .isNoDirectory
  | 21 => .isDirectory
  | 36 => .nameTooLong
  | number => .other (text ++ " (os error " ++ Numeral.decimal number ++ ")")

def fileError : IO.Error → FileError
  | .noFileOrDirectory _ code text => systemError code text
  | .inappropriateType _ code text => systemError code text
  | .permissionDenied _ code text => systemError code text
  | .invalidArgument _ code text => systemError code text
  | error => .other (toString error)

def readFile (path : String) : IO (Except FileError ByteArray) := do
  match ← (IO.FS.readBinFile path).toBaseIO with
  | .ok content => return .ok content
  | .error error => return .error (fileError error)

/-- The files that the options name. -/
def readFiles (options : Options) : IO (List (String × Except FileError ByteArray)) :=
  (options.input :: options.settings.toList).mapM fun path => do return (path, ← readFile path)

/-- The values of variables, as far as they are set. -/
def readVariables (names : List String) : IO (List (String × String)) := do
  let values ← names.mapM fun name => do return (← IO.getEnv name).map (name, ·)
  return values.filterMap id

/-- The environment file of the current directory. -/
def readEnvironmentFile : IO ByteArray := do
  match ← readFile ".env" with
  | .ok content => return content
  | .error _ => return .empty

/-- Everything in the text of an environment file that may be the name of a variable. -/
def wordsOf (text : List Char) : List String :=
  let separators := [
    fun c => !Environment.isNamePart c,
    fun c => !Text.isAlphanumeric c,
    fun c => c == '\x7b' || c == '\x7d']
  separators.flatMap fun isSeparator =>
    ((Text.pieces isSeparator text).filter (!·.isEmpty)).map String.ofList

/-- The environment with the variables of its file, if they can be set. -/
def readEnvironment : IO (Option Environment) := do
  let content ← readEnvironmentFile
  let names := Log.Filter.variableName :: Settings.variableNames ++
    wordsOf (Environment.fileText content)
  let found ← readVariables names
  let environment : Environment := (found.lookup ·)
  return environment.defineFile content

def surroundings (environment : Environment) (options : Options) : IO Surroundings := do
  let files ← readFiles options
  return {
    environment
    read := fun path => (files.lookup path).getD (.error .notFound)
    create := fun _ => .ok () }

/-- Writes the trace of a run. If that fails, the run is the one that finds so. -/
def writeTrace (options : Options) (surroundings : Surroundings) (report : Report) :
    IO Report := do
  match report.trace with
  | none => return report
  | some (path, lines) =>
    match ← (IO.FS.writeFile path (String.join (lines.map (· ++ "\n")))).toBaseIO with
    | .ok () => return report
    | .error error =>
      let create := fun _ => .error (fileError error)
      return run .standard options { surroundings with create }

def runWith (environment : Environment) (options : Options) : IO Report := do
  let surroundings ← surroundings environment options
  let report ← writeTrace options surroundings (run .standard options surroundings)
  for line in report.output do
    IO.println line
  for entry in report.visibleLog surroundings do
    IO.eprintln entry.line
  return report

end Itanium.Program

open Itanium Itanium.CommandLine Itanium.Program in
def main (arguments : List String) : IO UInt32 := do
  let report ← match ← readEnvironment, Options.parse? arguments with
    | none, _ => pure .crash
    | some _, none => pure .usageError
    | some environment, some options => runWith environment options
  return UInt32.ofNat report.exitCode
