import Itanium.CommandLine.Formats
import Itanium.Failure
import Itanium.Log
import Itanium.Record
import Itanium.Trace

/-!
# Sessions

What remains of a run once everything is loaded: the bundles of a window are visited one after the
other, counted, traced, and listed or kept to be recorded. A strict session ends at the first bundle
that does not decode, after that bundle has been traced and before anything of it is shown.
-/
namespace Itanium.CommandLine

/-- A bundle with its address. -/
abbrev Placed := Word × Vector UInt8 16

/-- The bundles of an image from an address on, at most `count` of them. -/
def window (image : Image) (start : Word) (count : Option Nat) : List Placed :=
  (image.bundles.dropWhile fun bundle => bundle.1 < start).take (count.getD (Word.count - 1))

/-- What is recorded of a bundle: nothing but its address if it does not decode. -/
def record (address : Word) (bundle : Option Bundle) : Json :=
  .record [
    ("address", .text ("0x" ++ Numeral.hex 16 address.toNat)),
    ("bundle", match bundle with
      | some bundle => bundle.record
      | none => .null)]

/-- A bundle that decodes, or the entry that says why it does not. -/
def decode (bytes : Vector UInt8 16) : Option Bundle × List Log.Entry :=
  match Bundle.ofBytes bytes with
  | .ok bundle => (some bundle, [])
  | .error rejection =>
    (none, [⟨.decoder, .debug, rejection.report (RawBundle.ofBytes bytes)⟩])

structure Session where
  flags : Listing.Flags
  strict : Bool
  json : Bool
  tracer : Option Tracer
  window : List Placed

/-- How far a session has come. -/
structure Progress where
  /-- What is printed, without the line break behind each text. -/
  output : List String
  /-- The bundles that are kept to be recorded. -/
  decoded : List (Word × Option Bundle)
  tracer : Option Tracer
  total : Nat
  invalid : Nat
  log : List Log.Entry

namespace Progress

/-- Counts and traces a bundle. -/
def note (progress : Progress) (placed : Placed) (bundle : Option Bundle)
    (reasons : List Log.Entry) : Progress :=
  { progress with
    total := progress.total + 1
    tracer := progress.tracer.map (·.record placed.1 placed.2 bundle)
    log := progress.log ++ reasons }

/-- Counts a bundle that does not decode. -/
def warn (progress : Progress) (failure : Failure) : Progress :=
  { progress with
    invalid := progress.invalid + 1
    log := progress.log ++ [⟨.commandLine, .warning, failure.message⟩] }

end Progress

namespace Session

def start (session : Session) : Progress :=
  { output := [], decoded := [], tracer := session.tracer, total := 0, invalid := 0, log := [] }

/-- Keeps a bundle to be recorded, or lists it. -/
def present (session : Session) (progress : Progress) (placed : Placed) (bundle : Option Bundle) :
    Progress :=
  if session.json then { progress with decoded := progress.decoded ++ [(placed.1, bundle)] }
  else
    let lines := Listing.block session.flags (RawBundle.ofBytes placed.2) placed.1 bundle
    { progress with output := progress.output ++ lines }

/-- Visits one bundle. A failure ends the session, which then shows nothing of the bundle. -/
def step (session : Session) (progress : Progress) (placed : Placed) :
    Progress × Option Failure :=
  let (bundle, reasons) := decode placed.2
  let noted := progress.note placed bundle reasons
  match bundle with
  | some _ => (session.present noted placed bundle, none)
  | none =>
    let failure := Failure.invalidBundle placed.1
    let warned := noted.warn failure
    if session.strict then (warned, some failure)
    else (session.present warned placed bundle, none)

/-- Visits bundles until a failure ends the session. -/
def visit (session : Session) : Progress → List Placed → Progress × Option Failure
  | progress, [] => (progress, none)
  | progress, placed :: rest =>
    match session.step progress placed with
    | (progress, some failure) => (progress, some failure)
    | (progress, none) => visit session progress rest

/-- What is left to do once the whole window has been visited: the records are printed together, and
the trace is flushed. -/
def finish (formats : Formats) (session : Session) (progress : Progress) : Progress :=
  let records := Json.list (progress.decoded.map fun (address, bundle) => record address bundle)
  { progress with
    output := if session.json then progress.output ++ [formats.printJson records]
      else progress.output
    tracer := progress.tracer.map (·.flush)
    log := progress.log ++ [⟨.commandLine, .info, "Decoded " ++ Numeral.decimal progress.total ++
      " bundles, " ++ Numeral.decimal progress.invalid ++ " invalid"⟩] }

/-- All that a session does, and the failure that ends it early. -/
def run (formats : Formats) (session : Session) : Progress × Option Failure :=
  match session.visit session.start session.window with
  | (progress, some failure) => (progress, some failure)
  | (progress, none) => (session.finish formats progress, none)

end Session

end Itanium.CommandLine
