import Itanium.Listing

/-!
# Decode traces

A tracer notes every bundle it is shown, whether or not it decodes, with one line each behind a
header. Lines are pending until they are flushed to the file. A tracer that is switched off notes
nothing.
-/
namespace Itanium

structure Tracer where
  enabled : Bool
  /-- The number of bundles noted. -/
  traced : Word
  /-- The number of bundles noted that did not decode. -/
  invalid : Word
  file : List String
  pending : List String
deriving DecidableEq

namespace Tracer

/-- The first line of a trace, before the time at which it started. -/
def header : String := "# ia64dec trace started "

def start (time : String) : Tracer :=
  { enabled := true, traced := 0, invalid := 0, file := [], pending := [header ++ time] }

/-- Fills up with spaces on the right. -/
def padRight (width : Nat) (text : String) : String :=
  text ++ String.ofList (List.replicate (width - text.length) ' ')

/-- Address, raw bits, template and instructions of a bundle. -/
def line (address : Word) (raw : BitVec 128) (bundle : Option Bundle) : String :=
  let (name, text) := match bundle with
    | some bundle =>
      (bundle.template.name, String.intercalate " ; " (Listing.lines .bare bundle address))
    | none => ("????", "<invalid>")
  "0x" ++ Numeral.upperHex 16 address.toNat ++ " [" ++ Numeral.upperHex 32 raw.toNat ++ "] " ++
    padRight 8 name ++ " | " ++ text

/-- Notes a bundle. What is listed is `bundle`, which need not be the decoding of the bytes. -/
def record (tracer : Tracer) (address : Word) (bytes : Vector UInt8 16)
    (bundle : Option Bundle) : Tracer :=
  if tracer.enabled then
    { tracer with
      traced := tracer.traced + 1
      invalid := if bundle.isNone then tracer.invalid + 1 else tracer.invalid
      pending := tracer.pending ++ [line address (RawBundle.ofBytes bytes) bundle] }
  else tracer

def setEnabled (tracer : Tracer) (enabled : Bool) : Tracer :=
  { tracer with enabled }

def flush (tracer : Tracer) : Tracer :=
  { tracer with file := tracer.file ++ tracer.pending, pending := [] }

/-- The lines of the file once the tracer is closed. -/
def close (tracer : Tracer) : List String :=
  tracer.flush.file

end Tracer

end Itanium
