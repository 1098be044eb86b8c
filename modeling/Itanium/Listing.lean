import Itanium.Bundle
import Itanium.Listing.Text

/-!
# Listings

A bundle is listed with one line for each instruction. The first line shows the address and the
units of the bundle, the others leave their columns blank; each line can show a stop and the raw
bits.
-/
namespace Itanium.Listing

/-- What a listing shows besides the instructions. -/
structure Flags where
  address : Bool
  template : Bool
  stops : Bool
  rawBits : Bool
deriving DecidableEq

namespace Flags

/-- Instructions only. -/
def bare : Flags := ⟨false, false, false, false⟩

def standard : Flags := ⟨false, true, true, false⟩

/-- The flags as a bit set, `address` lowest. -/
def toNat (flags : Flags) : Nat :=
  flags.address.toNat + 2 * flags.template.toNat + 4 * flags.stops.toNat + 8 * flags.rawBits.toNat

end Flags

def spaces (n : Nat) : String :=
  String.ofList (List.replicate n ' ')

/-- The address column, 18 characters wide. -/
def addressColumn (flags : Flags) (address : Word) (first : Bool) : String :=
  if !flags.address then ""
  else if first then Numeral.hex 16 address.toNat ++ "  "
  else spaces 18

/-- The units column, 12 characters wide. -/
def templateColumn (flags : Flags) (template : Template) (first : Bool) : String :=
  if !flags.template then ""
  else if first then "[" ++ template.letters ++ "]" ++ spaces 7
  else spaces 12

def stopMark (flags : Flags) (template : Template) (slot : Nat) : String :=
  if flags.stops && template.stopsAfter slot then ";;" else ""

def rawColumn (flags : Flags) (bits : Word) : String :=
  if flags.rawBits then "  // " ++ Numeral.hex 11 bits.toNat else ""

def line (flags : Flags) (template : Template) (address : Word) (first : Bool) (slot : Nat)
    (instruction : Instruction) : String :=
  addressColumn flags address first ++ templateColumn flags template first ++
    instruction.text address ++ stopMark flags template slot ++ rawColumn flags instruction.bits

def lines (flags : Flags) (bundle : Bundle) (address : Word) : List String :=
  bundle.instructions.mapIdx fun position (slot, instruction) =>
    line flags bundle.template address (position == 0) slot instruction

/-- The line of a bundle that does not decode. -/
def invalidLine (flags : Flags) (raw : BitVec 128) (address : Word) : String :=
  let mark := "<invalid bundle " ++ Numeral.hex 32 raw.toNat ++ ">"
  if flags.address then Numeral.hex 16 address.toNat ++ "  " ++ mark else mark

/-- The lines of a bundle, given what it decodes to, if it does. -/
def block (flags : Flags) (raw : BitVec 128) (address : Word) : Option Bundle → List String
  | some bundle => lines flags bundle address
  | none => [invalidLine flags raw address]

end Itanium.Listing
