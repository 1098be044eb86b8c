import Itanium.Instruction
import Itanium.Text.Numeral

/-!
# Instruction text

An instruction in assembler syntax: the qualifying predicate unless it is `p0`, the mnemonic with
its completers, then destinations, `=` and sources. Branch targets are shown as addresses, so the
text depends on where the bundle lies.
-/
namespace Itanium

/-- The name of an application register, if it has one of its own. -/
def applicationRegisterName : Nat → Option String
  | 0 => some "ar.k0"
  | 1 => some "ar.k1"
  | 2 => some "ar.k2"
  | 3 => some "ar.k3"
  | 4 => some "ar.k4"
  | 5 => some "ar.k5"
  | 6 => some "ar.k6"
  | 7 => some "ar.k7"
  | 16 => some "ar.rsc"
  | 17 => some "ar.bsp"
  | 18 => some "ar.bspstore"
  | 19 => some "ar.rnat"
  | 21 => some "ar.fcr"
  | 24 => some "ar.eflag"
  | 25 => some "ar.csd"
  | 26 => some "ar.ssd"
  | 27 => some "ar.cflg"
  | 28 => some "ar.fsr"
  | 29 => some "ar.fir"
  | 30 => some "ar.fdr"
  | 32 => some "ar.ccv"
  | 36 => some "ar.unat"
  | 40 => some "ar.fpsr"
  | 44 => some "ar.itc"
  | 64 => some "ar.pfs"
  | 65 => some "ar.lc"
  | 66 => some "ar.ec"
  | _ => none

/-- A signed number in hexadecimal. -/
def immediateText (value : Word) : String :=
  if value.msb then "-0x" ++ Numeral.hex 1 (-value).toNat else "0x" ++ Numeral.hex 1 value.toNat

namespace Operand

/-- A member of a register file that is indexed by a general register. -/
def indexed (file : String) (value : Word) : String :=
  file ++ "[r" ++ Numeral.decimal value.toNat ++ "]"

def text (operand : Operand) (address : Word) : String :=
  let value := operand.value
  let number := Numeral.decimal value.toNat
  match operand.kind with
  | .none => ""
  | .areg => (applicationRegisterName value.toNat).getD ("ar" ++ number)
  | .breg => "b" ++ number
  | .creg => "cr" ++ number
  | .freg => "f" ++ number
  | .greg => "r" ++ number
  | .preg => "p" ++ number
  | .imm => immediateText value
  | .mem => indexed "" value
  | .disp => "0x" ++ Numeral.hex 1 (address + value).toNat
  | .ip => "ip"
  | .pr => "pr"
  | .prRot => "pr.rot"
  | .psr => "psr"
  | .psrL => "psr.l"
  | .psrUm => "psr.um"
  | .cpuid => indexed "cpuid" value
  | .dbr => indexed "dbr" value
  | .dtr => indexed "dtr" value
  | .ibr => indexed "ibr" value
  | .itr => indexed "itr" value
  | .msr => indexed "msr" value
  | .pkr => indexed "pkr" value
  | .pmc => indexed "pmc" value
  | .pmd => indexed "pmd" value
  | .rr => indexed "rr" value

end Operand

namespace Instruction

def predicateText (instruction : Instruction) : String :=
  let predicate := instruction.operands[0]
  if predicate.kind = .preg ∧ predicate.value ≠ 0 then
    "(p" ++ Numeral.decimal predicate.value.toNat ++ ") "
  else ""

/-- The mnemonic and the completers other than the default ones. -/
def nameText (instruction : Instruction) : String :=
  String.join (instruction.mnemonic.text ::
    (instruction.completers.filter (·.form ≠ .none)).map fun completer =>
      "." ++ completer.form.text)

def operandTexts (operands : List Operand) (address : Word) : String :=
  String.intercalate ", " ((operands.filter (!·.isAbsent)).map (·.text address))

/-- The operands between the predicate and the first source. -/
def destinations (instruction : Instruction) : List Operand :=
  (instruction.operands.toList.take (max instruction.sourceIndex 1)).drop 1

def sources (instruction : Instruction) : List Operand :=
  instruction.operands.toList.drop (max instruction.sourceIndex 1)

def operandsText (instruction : Instruction) (address : Word) : String :=
  let destinations := operandTexts instruction.destinations address
  let sources := operandTexts instruction.sources address
  if destinations.isEmpty then
    if sources.isEmpty then "" else " " ++ sources
  else if sources.isEmpty then " " ++ destinations
  else " " ++ destinations ++ " = " ++ sources

/-- The text of an instruction whose bundle lies at an address. -/
def text (instruction : Instruction) (address : Word) : String :=
  instruction.predicateText ++ instruction.nameText ++ instruction.operandsText address

end Instruction

/-- A long half is shown as data. -/
def Slot.text (slot : Slot) (address : Word) : String :=
  match slot with
  | .longHalf bits => "data8 0x" ++ Numeral.hex 1 bits.toNat
  | .decoded instruction => instruction.text address

end Itanium
