/-!
# Execution units

The unit that executes a syllable. The L unit executes nothing: its syllable is the upper part of
the long immediate of the X syllable that follows it.
-/
namespace Itanium

inductive ExecutionUnit where
  | m | i | f | b | l | x
deriving DecidableEq

namespace ExecutionUnit

def all : List ExecutionUnit := [.m, .i, .f, .b, .l, .x]

def letter : ExecutionUnit → Char
  | .m => 'M'
  | .i => 'I'
  | .f => 'F'
  | .b => 'B'
  | .l => 'L'
  | .x => 'X'

def ofLetter? (c : Char) : Option ExecutionUnit :=
  all.find? (·.letter == c)

end ExecutionUnit

end Itanium
