import Itanium.Format
import Itanium.Operation
import Itanium.Word

/-!
# Pages of the opcode space

A page collects the encodings that one field tells apart. Its guards say which syllables it is
about, its key is the field to read, and its rows give the encoding of each assigned code. A
syllable that meets no page, or has a code without a row, has no encoding.
-/
namespace Itanium

/-- What a syllable is found to be: its operation, and the format in which its operands lie. -/
structure Encoding where
  operation : Operation
  format : Format
deriving DecidableEq

namespace OpcodeSpace

structure Page where
  guards : List (BitField × Nat)
  key : BitField
  rows : List (Nat × Encoding)

/-- Rows of one format. -/
def assign (format : Format) (codes : List (Nat × Operation)) : List (Nat × Encoding) :=
  codes.map fun (code, operation) => (code, ⟨operation, format⟩)

namespace Page

/-- A page within a major opcode. -/
def within (major : Nat) (guards : List (BitField × Nat)) (key : BitField)
    (rows : List (Nat × Encoding)) : Page :=
  ⟨(Word.majorOpcode, major) :: guards, key, rows⟩

/-- A page with one encoding, which its guards alone select. -/
def single (major : Nat) (guards : List (BitField × Nat)) (operation : Operation)
    (format : Format) : Page :=
  .within major guards ⟨0, 0⟩ [(0, ⟨operation, format⟩)]

def admits (page : Page) (syllable : Word) : Bool :=
  page.guards.all fun (field, value) => field.read syllable == value

def lookup? (page : Page) (syllable : Word) : Option Encoding :=
  if page.admits syllable then page.rows.lookup (page.key.read syllable) else none

end Page

end OpcodeSpace

end Itanium
