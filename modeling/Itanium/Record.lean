import Itanium.Bundle
import Itanium.Json

/-!
# Records

Decoded bundles as JSON values. Operands are recorded up to the last one that is present, so that
the rest, all absent, can be filled in again.
-/
namespace Itanium

def Completer.record (completer : Completer) : Json :=
  .record [("class", .text completer.role.text), ("type", .text completer.form.text)]

def Operand.record (operand : Operand) : Json :=
  .record [("kind", .text operand.kind.text), ("value", .number operand.value.toNat)]

def Instruction.record (instruction : Instruction) : Json :=
  .record [
    ("raw_bits", .number instruction.bits.toNat),
    ("format", .text instruction.format.name),
    ("opcode", .text instruction.mnemonic.text),
    ("completers", .list (instruction.completers.map (·.record))),
    ("operands", .list (instruction.usedOperands.map (·.record))),
    ("first_source_operand_index", .number instruction.sourceIndex)]

def Slot.record : Slot → Json
  | .longHalf bits =>
    .record [
      ("raw_bits", .number bits.toNat),
      ("format", .null),
      ("opcode", .null),
      ("completers", .list []),
      ("operands", .list []),
      ("first_source_operand_index", .number 0)]
  | .decoded instruction => instruction.record

def Bundle.record (bundle : Bundle) : Json :=
  .record [
    ("template", .text bundle.template.name),
    ("slots", .list (bundle.slots.toList.map (·.record)))]

end Itanium
