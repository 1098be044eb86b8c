import Itanium.Operand
import Itanium.Operation.Assembly

/-!
# Where an operand comes from

A format describes each of its operands by a source: what kind of operand it is, and which bits of
the syllable give its value. The sources are data, so what a format reads can be asked without
decoding.
-/
namespace Itanium.Layout

/-- A number computed from a syllable and, for a long immediate, the syllable before it. -/
inductive Quantity where
  | fixed (value : Nat)
  /-- The gathered fields, times `2 ^ scale`. -/
  | unsigned (fields : List BitField) (scale : Nat)
  /-- The gathered fields in two's complement, times `2 ^ scale`. -/
  | signed (fields : List BitField) (scale : Nat)
  /-- A field added to a base. -/
  | above (base : Nat) (field : BitField)
  /-- A field counted down from a top. -/
  | below (top : Nat) (field : BitField)
  | difference (minuend subtrahend : BitField)
  /-- A field that selects one of a few values. -/
  | choice (field : BitField) (values : List Word)
  /-- Fields of the syllable around a field of the syllable before, times `2 ^ scale`. -/
  | spliced (low : List BitField) (long : BitField) (high : List BitField) (scale : Nat)

namespace Quantity

def value (syllable long : Word) : Quantity → Word
  | fixed n => BitVec.ofNat 64 n
  | unsigned fields scale => syllable.gatherUnsigned fields <<< scale
  | signed fields scale => syllable.gatherSigned fields <<< scale
  | above base field => BitVec.ofNat 64 (base + field.read syllable)
  | below top field => BitVec.ofNat 64 (top - field.read syllable)
  | difference minuend subtrahend =>
    BitVec.ofNat 64 (minuend.read syllable) - BitVec.ofNat 64 (subtrahend.read syllable)
  | choice field values => values.getD (field.read syllable) 0
  | spliced low field high scale =>
    let width := BitField.totalWidth low
    let spliced := (syllable.gatherUnsigned low).overlay width long field
    (spliced.overlay (width + field.width) (syllable.gatherUnsigned high)
      ⟨0, BitField.totalWidth high⟩) <<< scale

end Quantity

inductive KindRule where
  | always (kind : OperandKind)
  /-- One kind if the field holds the code, another if not. -/
  | byCode (field : BitField) (code : Nat) (equal different : OperandKind)
  /-- The kind of system register that the operation moves. -/
  | ofOperation

def KindRule.kind (syllable : Word) (operation : Operation) : KindRule → OperandKind
  | always kind => kind
  | byCode field code equal different => if field.read syllable = code then equal else different
  | ofOperation => operation.assembly.systemRegister

structure Source where
  rule : KindRule
  quantity : Quantity
  /-- A field and the code it must hold for the operand to be present. -/
  presence : Option (BitField × Nat)

namespace Source

def isPresent (source : Source) (syllable : Word) : Bool :=
  source.presence.all fun (field, code) => field.read syllable == code

def operand (source : Source) (operation : Operation) (syllable long : Word) : Operand :=
  if source.isPresent syllable then
    ⟨source.rule.kind syllable operation, source.quantity.value syllable long⟩
  else .absent

/-! ### Sources that many formats share -/

/-- A register whose number is a field. -/
def register (kind : OperandKind) (offset width : Nat) : Source :=
  ⟨.always kind, .unsigned [⟨offset, width⟩] 0, none⟩

def general (offset : Nat) : Source := register .greg offset 7

def float (offset : Nat) : Source := register .freg offset 7

def predicate (offset : Nat) : Source := register .preg offset 6

def branch (offset : Nat) : Source := register .breg offset 3

def application (offset : Nat) : Source := register .areg offset 7

def control (offset : Nat) : Source := register .creg offset 7

/-- Memory addressed by a general register. -/
def memory (offset : Nat) : Source := register .mem offset 7

/-- An application register that the operation names. -/
def implied (number : Nat) : Source := ⟨.always .areg, .fixed number, none⟩

/-- A register of which there is only one. -/
def unique (rule : KindRule) : Source := ⟨rule, .fixed 0, none⟩

def immediate (quantity : Quantity) : Source := ⟨.always .imm, quantity, none⟩

def unsigned (fields : List BitField) : Source := immediate (.unsigned fields 0)

def signed (fields : List BitField) : Source := immediate (.signed fields 0)

/-- A branch displacement, encoded in bundles and given in bytes. -/
def displacement (fields : List BitField) : Source := ⟨.always .disp, .signed fields 4, none⟩

def whenCode (field : BitField) (code : Nat) (source : Source) : Source :=
  { source with presence := some (field, code) }

end Source

end Itanium.Layout
