import Itanium.Word

/-!
# Operands

An operand is a kind and a 64-bit value: a register number, an immediate in two's complement, or a
displacement in bytes. An unused position holds the absent operand.
-/
namespace Itanium

inductive OperandKind where
  | none | areg | breg | cpuid | creg | dbr | disp | dtr | freg | greg | ibr | imm | ip | itr | mem
  | msr | pkr | pmc | pmd | pr | preg | prRot | psr | psrL | psrUm | rr
deriving DecidableEq

def OperandKind.text : OperandKind → String
  | .none => "none"
  | .areg => "areg"
  | .breg => "breg"
  | .cpuid => "cpuid"
  | .creg => "creg"
  | .dbr => "dbr"
  | .disp => "disp"
  | .dtr => "dtr"
  | .freg => "freg"
  | .greg => "greg"
  | .ibr => "ibr"
  | .imm => "imm"
  | .ip => "ip"
  | .itr => "itr"
  | .mem => "mem"
  | .msr => "msr"
  | .pkr => "pkr"
  | .pmc => "pmc"
  | .pmd => "pmd"
  | .pr => "pr"
  | .preg => "preg"
  | .prRot => "pr_rot"
  | .psr => "psr"
  | .psrL => "psr_l"
  | .psrUm => "psr_um"
  | .rr => "rr"

structure Operand where
  kind : OperandKind
  value : Word
deriving DecidableEq

namespace Operand

def absent : Operand := ⟨.none, 0⟩

def isAbsent (operand : Operand) : Bool :=
  operand.kind == .none

end Operand

/-! ### Application registers that instructions name implicitly -/

/-- The second register of a 16-byte access. -/
def compareStoreData : Nat := 25

/-- The comparand of a compare-and-exchange. -/
def compareValue : Nat := 32

/-- The function state that `alloc` saves. -/
def previousFunctionState : Nat := 64

end Itanium
