import Itanium.Proofs.Exclusion
import Itanium.Proofs.QualifyingPredicate
import Itanium.Proofs.Scatter

/-!
# Overwriting an operand

A format keeps a number in two's complement at a place: the fields that hold it, and the position of
its operand. Where no rule of the format and nothing else that the format reads has a bit in these
fields, other numbers can be written there: the syllable keeps its encoding, and what it is read as
differs in this operand only.
-/
namespace Itanium

open BitField Layout

deriving instance DecidableEq for KindRule, Quantity, Source

/-! ### Places -/

/-- The fields lie in the order in which they are gathered, lowest bits first. -/
structure Place where
  format : Format
  position : Nat
  fields : List BitField

namespace Format

/-- The lists that the sources of all operands can be, whatever the operation. -/
def operandSourceLists (format : Format) : List (List Source) :=
  format.sourceLists.map
    ((if format.isPredicated then .predicate 0 else .unique (.always .none)) :: ·)

theorem operandSources_mem (format : Format) (operation : Operation) :
    format.operandSources operation ∈ format.operandSourceLists :=
  List.mem_map_of_mem (format.sources_mem_sourceLists operation)

end Format

namespace Place

def width (place : Place) : Nat :=
  totalWidth place.fields

/-- Writes a number in two's complement. -/
def overwrite (place : Place) (value : Int) (syllable : Word) : Word :=
  scatter (BitVec.ofInt place.width value).toNat syllable place.fields

/-- The operand at the position is the number times `2 ^ scale`, and the format reads nothing else
from the fields. -/
@[mk_iff]
structure IsFree (place : Place) (kind : OperandKind) (scale : Nat) : Prop where
  room : place.position < 7
  nonempty : 0 < place.width
  separate : areSeparate 41 place.fields = true
  narrow : place.width ≤ 64
  source : ∀ sources ∈ place.format.operandSourceLists,
    sources[place.position]? = some ⟨.always kind, .signed place.fields scale, none⟩
  others : ∀ sources ∈ place.format.operandSourceLists,
    ∀ other ∈ sources.eraseIdx place.position, areApart place.fields other.fields = true
  hints : ∀ hint ∈ place.format.hints, areApart place.fields hint.fields = true
  reserved : ∀ reserved ∈ place.format.reserved,
    areApart place.fields [reserved.field] = true

instance (place : Place) (kind : OperandKind) (scale : Nat) :
    Decidable (place.IsFree kind scale) :=
  decidable_of_iff' _ (isFree_iff place kind scale)

/-- No rule of the format reads the fields. -/
def IsUnruled (place : Place) (unit : ExecutionUnit) : Prop :=
  ∀ rule ∈ OpcodeSpace.rules unit, rule.encoding.format = place.format →
    areApart place.fields rule.fields = true

instance (place : Place) (unit : ExecutionUnit) : Decidable (place.IsUnruled unit) :=
  inferInstanceAs (Decidable (∀ _ ∈ _, _))

end Place

/-- Other raw bits, and another operand. -/
def Instruction.withOperand (instruction : Instruction) (bits : Word) (position : Nat)
    (operand : Operand) : Instruction :=
  { instruction with bits, operands := instruction.operands.setIfInBounds position operand }

/-! ### Scaled numbers -/

theorem ofInt_shiftLeft (value : Int) (scale : Nat) :
    BitVec.ofInt 64 value <<< scale = BitVec.ofInt 64 (value * 2 ^ scale) := by
  have power : BitVec.twoPow 64 scale = BitVec.ofInt 64 (2 ^ scale) := by
    apply BitVec.eq_of_toNat_eq
    rw [show (2 : Int) ^ scale = ((2 ^ scale : Nat) : Int) by norm_cast, BitVec.ofInt_natCast,
      BitVec.toNat_twoPow, BitVec.toNat_ofNat]
  rw [BitVec.shiftLeft_eq_mul_twoPow, power, ← BitVec.ofInt_mul]

/-! ### Fields that nothing else is read from -/

section Written

variable {unit : ExecutionUnit} {encoding : Encoding} {syllable : Word} {fields : List BitField}

/-- A syllable keeps its encoding if no rule of its format reads what is written. -/
theorem OpcodeSpace.lookup?_scatter (unread : ∀ rule ∈ rules unit,
      rule.encoding.format = encoding.format → areApart fields rule.fields = true)
    (found : lookup? unit syllable = some encoding) (number : Nat) :
    lookup? unit (scatter number syllable fields) = some encoding := by
  obtain ⟨rule, member, admits, rfl⟩ := exists_rule_of_lookup? found
  have agree := agree_scatter (unread rule member rfl) number syllable
  exact lookup?_of_admits member ((Rule.admits_congr agree).trans admits)

/-- An operand changes at most if its source reads something that is written. -/
theorem Format.operands_scatter {format : Format} {operation : Operation} {position : Nat}
    (others : ∀ other ∈ (format.operandSources operation).eraseIdx position,
      areApart fields other.fields = true)
    (room : position < 7) (number : Nat) (syllable long : Word) :
    format.operands operation (scatter number syllable fields) long =
      (format.operands operation syllable long).setIfInBounds position
        (format.operands operation (scatter number syllable fields) long)[position] := by
  ext1 place placeRoom
  rw [Vector.getElem_setIfInBounds]
  split
  next here =>
    subst here
    rfl
  -- Any other operand has a source among the others, which read nothing that is written.
  next elsewhere =>
    apply getElem_operands_congr placeRoom
    intro source listed
    refine ⟨?_, fun _ _ => rfl⟩
    have other := List.mem_eraseIdx_iff_getElem?.mpr ⟨place, Ne.symm elsewhere, listed⟩
    exact agree_scatter (others source other) number syllable

/-- What is read differs in one operand if neither hints nor reserved fields are written. -/
theorem Encoding.reads_scatter {long : Option Word} {instruction : Instruction} {position : Nat}
    {operand : Operand} {number : Nat} (reads : encoding.Reads syllable long instruction)
    (hints : ∀ hint ∈ encoding.format.hints, areApart fields hint.fields = true)
    (reserved : ∀ reserved ∈ encoding.format.reserved, areApart fields [reserved.field] = true)
    (operands : encoding.format.operands encoding.operation (scatter number syllable fields)
        (long.getD 0) =
      (encoding.format.operands encoding.operation syllable (long.getD 0)).setIfInBounds position
        operand) :
    encoding.Reads (scatter number syllable fields) long
      (instruction.withOperand (scatter number syllable fields) position operand) := by
  obtain ⟨complete, unreserved, few, rfl⟩ := extract_eq_ok_iff.mp reads
  have completers :
      encoding.format.completers encoding.operation (scatter number syllable fields) =
        encoding.format.completers encoding.operation syllable :=
    Format.completers_congr fun hint member => agree_scatter (hints hint member) number syllable
  have admitted : encoding.format.reserved.all (·.admits (scatter number syllable fields)) =
      encoding.format.reserved.all (·.admits syllable) :=
    Format.reserved_congr fun reservedField member =>
      agree_scatter (reserved reservedField member) number syllable
  refine extract_eq_ok_iff.mpr ⟨complete, admitted.trans unreserved, completers ▸ few, ?_⟩
  simp only [Instruction.withOperand, Instruction.reading, completers, operands]

end Written

namespace Place

variable {unit : ExecutionUnit} {encoding : Encoding} {syllable : Word} {long : Option Word}
  {place : Place} {kind : OperandKind} {scale : Nat} (placed : place.format = encoding.format)

include placed

theorem lookup?_overwrite (unruled : place.IsUnruled unit)
    (found : OpcodeSpace.lookup? unit syllable = some encoding) (value : Int) :
    OpcodeSpace.lookup? unit (place.overwrite value syllable) = some encoding :=
  OpcodeSpace.lookup?_scatter (fun rule member same => unruled rule member (same.trans placed.symm))
    found _

variable (free : place.IsFree kind scale)

include free

/-- What the place is read as. -/
theorem getElem?_operands (operation : Operation) (syllable long : Word) :
    (encoding.format.operands operation syllable long)[place.position]? =
      some ⟨kind, syllable.gatherSigned place.fields <<< scale⟩ := by
  have listed := free.source _ (place.format.operandSources_mem operation)
  rw [placed] at listed
  rw [Vector.getElem?_eq_getElem free.room,
    Format.operands_of_operandSources listed syllable long free.room]
  rfl

theorem operands_overwrite {value : Int} (fits : FitsSigned place.width value)
    (operation : Operation) (long : Word) :
    encoding.format.operands operation (place.overwrite value syllable) long =
      (encoding.format.operands operation syllable long).setIfInBounds place.position
        ⟨kind, BitVec.ofInt 64 (value * 2 ^ scale)⟩ := by
  have room := free.room
  have others := free.others _ (place.format.operandSources_mem operation)
  rw [placed] at others
  -- The number is gathered as it was scattered.
  have gathered : gather (place.overwrite value syllable) place.fields =
      (BitVec.ofInt place.width value).toNat := by
    rw [overwrite, gather_scatter (by decide) free.separate]
    exact Nat.mod_eq_of_lt (BitVec.isLt _)
  have shown : (encoding.format.operands operation (place.overwrite value syllable)
      long)[place.position] = ⟨kind, BitVec.ofInt 64 (value * 2 ^ scale)⟩ := by
    apply Option.some.inj
    rw [← Vector.getElem?_eq_getElem room, getElem?_operands placed free, ← ofInt_shiftLeft,
      Word.gatherSigned_of_gather free.nonempty free.narrow fits gathered]
  rw [← shown]
  exact Format.operands_scatter others room _ syllable long

theorem reads_overwrite {instruction : Instruction}
    (reads : encoding.Reads syllable long instruction) {value : Int}
    (fits : FitsSigned place.width value) :
    encoding.Reads (place.overwrite value syllable) long
      (instruction.withOperand (place.overwrite value syllable) place.position
        ⟨kind, BitVec.ofInt 64 (value * 2 ^ scale)⟩) := by
  apply Encoding.reads_scatter reads
  · exact fun hint member => free.hints hint (placed ▸ member)
  · exact fun reserved member => free.reserved reserved (placed ▸ member)
  · exact operands_overwrite placed free fits encoding.operation (long.getD 0)

end Place

end Itanium
