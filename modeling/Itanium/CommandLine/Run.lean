import Itanium.CommandLine.Options
import Itanium.CommandLine.Session
import Itanium.Environment.File

/-!
# Runs

A run loads settings and image, finds the window, and is then a session. It is a function of the
formats, the options and its surroundings, and its result is what it prints, logs and writes. The log
of a run that fails ends with the failure.
-/
namespace Itanium.CommandLine

/-- What a run can ask of its surroundings. -/
structure Surroundings where
  environment : Environment
  /-- The content of a file. -/
  read : String → Except FileError ByteArray
  /-- Whether a file can be created. -/
  create : String → Except FileError Unit

/-! ### Steps that log -/

/-- A result together with what was logged on the way to it. -/
structure Logged (α : Type) where
  log : List Log.Entry
  result : Except Failure α

namespace Logged

instance : Monad Logged where
  pure value := ⟨[], .ok value⟩
  bind step next :=
    match step.result with
    | .ok value => ⟨step.log ++ (next value).log, (next value).result⟩
    | .error failure => ⟨step.log, .error failure⟩

def say (part : Log.Part) (severity : Log.Severity) (message : String) : Logged Unit :=
  ⟨[⟨part, severity, message⟩], .ok ()⟩

def ofExcept {ε α : Type} (failure : ε → Failure) (result : Except ε α) : Logged α :=
  ⟨[], result.mapError failure⟩

end Logged

open Logged

/-! ### Loading -/

def readText (surroundings : Surroundings) (path : String) : Except FileError String := do
  let bytes ← surroundings.read path
  match String.fromUTF8? bytes with
  | some text => return text
  | none => throw .invalidUtf8

/-- The settings file, if the options name one, and else the standard settings. -/
def settingsFile (formats : Formats) (surroundings : Surroundings) :
    Option String → Logged Settings
  | none => pure .standard
  | some path => do
    let text ← ofExcept .file (readText surroundings path)
    say .settings .debug ("Loaded config from " ++ path)
    ofExcept (fun reason => .settings (.malformed reason)) (formats.readSettings text)

/-- What the options set over the lower layers of the settings. -/
def Options.applyTo (options : Options) (settings : Settings) : Settings :=
  { settings with
    base := options.base.getD settings.base
    showRawBits := options.bits || settings.showRawBits
    showAddress := !options.noAddress && settings.showAddress
    strict := options.strict || settings.strict }

/-- The variables over a layer of settings, and the options over both. -/
def layer (options : Options) (environment : Environment) (settings : Settings) :
    Except SettingsError Settings :=
  match settings.applyVariables environment with
  | (settings, none) => .ok (options.applyTo settings)
  | (_, some error) => .error error

def loadSettings (formats : Formats) (options : Options) (surroundings : Surroundings) :
    Logged Settings := do
  let settings ← settingsFile formats surroundings options.settings
  ofExcept .settings (layer options surroundings.environment settings)

/-- The bytes of the input, from a hex dump or as they are. -/
def loadBytes (options : Options) (surroundings : Surroundings) : Logged (Array UInt8) :=
  if options.hex then do
    let text ← ofExcept .file (readText surroundings options.input)
    let bytes ← ofExcept .hexDump (HexDump.read text)
    return bytes.toArray
  else do
    let bytes ← ofExcept .file (surroundings.read options.input)
    say .image .info ("Loaded " ++ Numeral.decimal bytes.size ++ " bytes from " ++ options.input)
    return bytes.data

def loadImage (options : Options) (surroundings : Surroundings) (base : Word) : Logged Image := do
  say .commandLine .info ("Loading " ++ options.input ++ " at " ++ ImageError.addressText base)
  let bytes ← loadBytes options surroundings
  let image ← ofExcept .image (Image.ofBytes base bytes)
  match image.warning? with
  | some warning => say .image .warning warning
  | none => pure ()
  say .commandLine .info (Numeral.decimal image.bundleCount ++ " bundles in image")
  return image

/-- The address of the first bundle to visit. -/
def firstBundle (image : Image) : Option String → Except Failure Word
  | none => .ok image.base
  | some text => do
    let address ← (Address.parse text).mapError .address
    let _ ← (image.bundleAt address).mapError .image
    return Image.bundleAddress address

/-- A tracer to a new file, if the options name one. -/
def openTrace (surroundings : Surroundings) : Option String → Logged (Option Tracer)
  | none => pure none
  | some path => do
    ofExcept .file (surroundings.create path)
    say .tracer .info ("Tracing decode to " ++ path)
    return some (Tracer.start "")

def prepare (formats : Formats) (options : Options) (surroundings : Surroundings) :
    Logged Session := do
  let settings ← loadSettings formats options surroundings
  let base ← ofExcept .address settings.baseAddress
  let image ← loadImage options surroundings base
  let start ← ofExcept id (firstBundle image options.start)
  let tracer ← openTrace surroundings options.trace
  return {
    flags := settings.flags
    strict := settings.strict
    json := options.json
    tracer
    window := window image start options.count }

/-! ### The whole run -/

structure Report where
  exitCode : Nat
  /-- The texts on standard output, each of which ends a line. -/
  output : List String
  log : List Log.Entry
  /-- The trace file and its lines. -/
  trace : Option (String × List String)

/-- A command line that breaks the grammar does nothing. -/
def Report.usageError : Report :=
  { exitCode := 2, output := [], log := [], trace := none }

/-- A program that cannot set a variable ends before it does anything. -/
def Report.crash : Report :=
  { exitCode := 101, output := [], log := [], trace := none }

def greeting : Log.Entry :=
  ⟨.commandLine, .info, "ia64dec v0.1.0"⟩

def failureLog : Option Failure → List Log.Entry
  | none => []
  | some failure => [⟨.commandLine, .error, failure.message⟩]

def run (formats : Formats) (options : Options) (surroundings : Surroundings) : Report :=
  let prepared := prepare formats options surroundings
  match prepared.result with
  | .error failure =>
    { exitCode := 1
      output := []
      log := greeting :: prepared.log ++ failureLog (some failure)
      trace := none }
  | .ok session =>
    let (progress, failure) := session.run formats
    { exitCode := if failure.isSome then 1 else 0
      output := progress.output
      log := greeting :: prepared.log ++ progress.log ++ failureLog failure
      -- A tracer is closed whichever way the session ends.
      trace := do return (← options.trace, (← progress.tracer).close) }

/-- The run of a list of arguments. -/
def runArguments (formats : Formats) (arguments : List String) (surroundings : Surroundings) :
    Report :=
  match Options.parse? arguments with
  | none => .usageError
  | some options => run formats options surroundings

/-- The entries that the environment asks to see; without a word from it, those of information and
above. -/
def Report.visibleLog (report : Report) (surroundings : Surroundings) : List Log.Entry :=
  let filter := match surroundings.environment Log.Filter.variableName with
    | some text => Log.Filter.parse text
    | none => .standard
  report.log.filter (filter.shows ·)

end Itanium.CommandLine
