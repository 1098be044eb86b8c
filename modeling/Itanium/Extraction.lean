import Itanium.Instruction
import Itanium.Layout.Fields
import Itanium.Layout.Operands

/-!
# Extraction

Reads a syllable whose encoding is known: checks its reserved fields, and fills in completers and
operands as its format lays them out. The completers that the opcode selects come before those that
fields select.
-/
namespace Itanium

inductive ExtractionError where
  /-- A format of a long immediate, without the syllable that completes it. -/
  | missingLongHalf
  | reservedField
  /-- More completers than an instruction carries. -/
  | completerOverflow (mnemonic : Mnemonic)
deriving DecidableEq

namespace Format

def completers (format : Format) (operation : Operation) (syllable : Word) : List Completer :=
  operation.assembly.completers ++ format.hints.map (·.completer syllable)

/-- Positions from 0; every position without a source is absent. -/
def operands (format : Format) (operation : Operation) (syllable long : Word) :
    Vector Operand 7 :=
  let predicate := if format.isPredicated then Layout.Source.predicate 0 else
    Layout.Source.unique (.always .none)
  let sources := predicate :: format.sources operation
  Vector.ofFn fun position =>
    (sources[position.val]?.map (·.operand operation syllable long)).getD .absent

end Format

/-- `long` is the syllable before, which only the formats of a long immediate read. -/
def extract (operation : Operation) (format : Format) (syllable : Word) (long : Option Word) :
    Except ExtractionError Instruction :=
  let completers := format.completers operation syllable
  if format.isLong && long.isNone then .error .missingLongHalf
  else if !format.reserved.all (·.admits syllable) then .error .reservedField
  else if Instruction.maxCompleters < completers.length then
    .error (.completerOverflow operation.mnemonic)
  else .ok {
    bits := syllable
    format
    mnemonic := operation.mnemonic
    completers
    operands := format.operands operation syllable (long.getD 0)
    sourceIndex := format.sourceIndex operation.mnemonic }

end Itanium
