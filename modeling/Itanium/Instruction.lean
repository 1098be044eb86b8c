import Itanium.Completer
import Itanium.Format
import Itanium.Mnemonic
import Itanium.Operand

/-!
# Instructions and slots

A decoded instruction keeps its raw bits next to what they mean. Position 0 of the operands is the
qualifying predicate; destinations come before `sourceIndex`, sources from there on. A slot of a
bundle holds an instruction or the long half that the next instruction completes.
-/
namespace Itanium

structure Instruction where
  bits : Word
  format : Format
  mnemonic : Mnemonic
  completers : List Completer
  operands : Vector Operand 7
  sourceIndex : Nat
deriving DecidableEq

namespace Instruction

/-- The most completers that an instruction carries. -/
def maxCompleters : Nat := 5

/-- The operands up to the last one that is present. -/
def usedOperands (instruction : Instruction) : List Operand :=
  (instruction.operands.toList.reverse.dropWhile Operand.isAbsent).reverse

end Instruction

inductive Slot where
  | longHalf (bits : Word)
  | decoded (instruction : Instruction)
deriving DecidableEq

namespace Slot

def bits : Slot → Word
  | longHalf bits => bits
  | decoded instruction => instruction.bits

def instruction? : Slot → Option Instruction
  | longHalf _ => none
  | decoded instruction => some instruction

/-- The operands of the slot; a long half has none. -/
def operands : Slot → Vector Operand 7
  | longHalf _ => Vector.replicate 7 .absent
  | decoded instruction => instruction.operands

end Slot

end Itanium
