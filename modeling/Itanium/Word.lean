/-!
# Words and bit fields

A syllable travels in the low 41 bits of a 64-bit word. A bit field is a run of adjacent bits; bit 0
is the lowest. An immediate that is spread over several fields is *gathered*: the first field gives
its lowest bits, and each further field stands directly above the bits gathered so far.
-/
namespace Itanium

abbrev Word := BitVec 64

/-- The number of words. -/
abbrev Word.count : Nat := 1 <<< 64

structure BitField where
  offset : Nat
  width : Nat
deriving DecidableEq

namespace BitField

def read (field : BitField) (word : Word) : Nat :=
  word.toNat >>> field.offset % (1 <<< field.width)

/-- The number of bits in a list of fields. -/
def totalWidth : List BitField → Nat
  | [] => 0
  | field :: rest => field.width + totalWidth rest

/-- The number spread over the fields, lowest bits first. -/
def gather (word : Word) : List BitField → Nat
  | [] => 0
  | field :: rest => field.read word + gather word rest <<< field.width

end BitField

namespace Word

/-- Copies bit `width - 1` into every bit from `width` up when it is set, and keeps the word as it
is when it is clear. A width of zero or of the whole word changes nothing. -/
def extendSign (word : Word) (width : Nat) : Word :=
  if width = 0 ∨ 64 ≤ width then word
  else if word.getLsbD (width - 1) then word ||| (BitVec.allOnes 64 <<< width)
  else word

def gatherUnsigned (word : Word) (fields : List BitField) : Word :=
  BitVec.ofNat 64 (BitField.gather word fields)

/-- The highest bit of the last field is the sign. -/
def gatherSigned (word : Word) (fields : List BitField) : Word :=
  (gatherUnsigned word fields).extendSign (BitField.totalWidth fields)

/-- Keeps the low `width` bits of `low` and puts a field of `source` above them. -/
def overlay (low : Word) (width : Nat) (source : Word) (field : BitField) : Word :=
  if 64 ≤ width then low
  else BitVec.ofNat 64 (low.toNat % (1 <<< width) + field.read source <<< width)

/-- The sum, unless it is more than 64 bits hold: a sum that wraps around is below its parts. -/
def checkedAdd (left right : Word) : Option Word :=
  if left + right < left then none else some (left + right)

/-- The difference, unless it is negative. -/
def checkedSub (left right : Word) : Option Word :=
  if left < right then none else some (left - right)

/-- The four bits that select a page of the opcode space. -/
def majorOpcode : BitField := ⟨37, 4⟩

end Word

end Itanium
