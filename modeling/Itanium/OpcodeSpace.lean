import Itanium.ExecutionUnit
import Itanium.OpcodeSpace.Branch
import Itanium.OpcodeSpace.Floating
import Itanium.OpcodeSpace.General
import Itanium.OpcodeSpace.Integer
import Itanium.OpcodeSpace.LongImmediate
import Itanium.OpcodeSpace.Memory

/-!
# The opcode space

The pages of each execution unit, and the encoding they give a syllable. No two pages of a unit have
a row for the same syllable, so their order is free. The L unit has no pages.
-/
namespace Itanium.OpcodeSpace

def pages : ExecutionUnit → List Page
  | .m => memoryPages ++ integerPages
  | .i => integerUnitPages ++ integerPages
  | .f => floatPages
  | .b => branchPages
  | .x => longPages
  | .l => []

def lookup? (unit : ExecutionUnit) (syllable : Word) : Option Encoding :=
  (pages unit).findSome? (·.lookup? syllable)

end Itanium.OpcodeSpace
