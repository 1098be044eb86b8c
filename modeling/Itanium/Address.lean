import Itanium.Text.Blank
import Itanium.Text.Numeral
import Itanium.Word

/-!
# Addresses

An address is written in decimal, or in hexadecimal after `0x`. Blanks around it and underscores in
it are ignored.
-/
namespace Itanium

structure AddressError where
  /-- The numeral, without blanks and underscores. -/
  numeral : String
  cause : Numeral.ParseError
deriving DecidableEq

def AddressError.message (error : AddressError) : String :=
  "Invalid address '" ++ error.numeral ++ "': " ++ error.cause.message

namespace Address

/-- What is left of a text when blanks around it and underscores are removed. -/
def normalize (text : String) : List Char :=
  (Text.trim text.toList).filter (· ≠ '_')

def parse (text : String) : Except AddressError Word :=
  let numeral := normalize text
  let (digits, isHex) := Text.splitHexMark numeral
  match Numeral.parse (if isHex then 16 else 10) Word.count digits with
  | .ok value => .ok (BitVec.ofNat 64 value)
  | .error cause => .error ⟨String.ofList numeral, cause⟩

end Address

end Itanium
