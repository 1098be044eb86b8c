import Itanium.Proofs.Bundle

/-!
# Decoding stays within its limits

An instruction has room for five completers and seven operands, and some of its operands count down
from a top. Both hints of a branch predict together with two completers of an opcode would be too
many, but no lookup finds such an encoding. Every source has a position among the operands, and no
count falls below zero. So no bundle is refused because an instruction overflows.
-/
namespace Itanium

namespace Format

/-- Every source has a position of its own. -/
theorem exists_position (format : Format) (operation : Operation) {index : Nat}
    {source : Layout.Source} (listed : (format.sources operation)[index]? = some source) :
    ∃ position : Fin 7, position.val = index + 1 ∧ ∀ syllable long,
      (format.operands operation syllable long)[position] =
        source.operand operation syllable long := by
  have few := format.length_sources_le operation
  obtain ⟨inside, -⟩ := List.getElem?_eq_some_iff.mp listed
  have room : index + 1 < 7 := by omega
  exact ⟨⟨index + 1, room⟩, rfl, fun syllable long =>
    operands_of_operandSources listed syllable long room⟩

/-- A count down from a top starts high enough. -/
theorem read_le_top_of_source (format : Format) (operation : Operation) {source : Layout.Source}
    (member : source ∈ format.sources operation) {top : Nat} {field : BitField}
    (counted : source.quantity = .below top field) (syllable : Word) :
    field.read syllable ≤ top := by
  rcases format.isFaithful_or_isDifference operation source member with faithful | difference
  · rw [counted] at faithful
    exact Layout.Quantity.read_le_top faithful syllable
  · rw [counted] at difference
    cases difference

end Format

theorem not_overflow_of_lookup? {unit : ExecutionUnit} {syllable : Word} {encoding : Encoding}
    (found : OpcodeSpace.lookup? unit syllable = some encoding) :
    ¬((encoding.format = .b6 ∨ encoding.format = .b7) ∧
      encoding.operation.assembly.completers.length = 2) := by
  rintro ⟨predict, two⟩
  have one := length_completers_of_predict found predict
  omega

/-- The syllable of a refused slot is unmatched or sets a reserved field. -/
theorem Bundle.error_eq_reservedField {raw : BitVec 128} {slot : Nat} {format : Format}
    {error : ExtractionError} (refused : decode raw = .error (.unreadable slot format error)) :
    error = .reservedField := by
  cases decodes_of_decode refused with
  | rejected _ _ refuses =>
    cases refuses
    rfl

/-- The overflow of an instruction is within reach of extraction and out of reach of decoding, and
neither positions nor counts leave their range. -/
theorem decoding_stays_within_limits :
    (∀ (operation : Operation) (format : Format) (syllable : Word) (long : Option Word)
      (mnemonic : Mnemonic),
      extract operation format syllable long = .error (.completerOverflow mnemonic) ↔
        (format = .b6 ∨ format = .b7) ∧ operation.assembly.completers.length = 2 ∧
          mnemonic = operation.mnemonic) ∧
    (∀ (unit : ExecutionUnit) (syllable : Word) (encoding : Encoding),
      OpcodeSpace.lookup? unit syllable = some encoding →
        ¬((encoding.format = .b6 ∨ encoding.format = .b7) ∧
          encoding.operation.assembly.completers.length = 2)) ∧
    (∀ (operation : Operation) (format : Format) (index : Nat) (source : Layout.Source),
      (format.sources operation)[index]? = some source →
        ∃ position : Fin 7, position.val = index + 1 ∧ ∀ syllable long,
          (format.operands operation syllable long)[position] =
            source.operand operation syllable long) ∧
    (∀ (operation : Operation) (format : Format), ∀ source ∈ format.sources operation,
      ∀ (top : Nat) (field : BitField), source.quantity = .below top field →
        ∀ syllable, field.read syllable ≤ top) ∧
    (∀ (raw : BitVec 128) (slot : Nat) (format : Format) (mnemonic : Mnemonic),
      Bundle.decode raw ≠ .error (.unreadable slot format (.completerOverflow mnemonic))) ∧
    ∀ (bytes : Vector UInt8 16) (slot : Nat) (format : Format) (mnemonic : Mnemonic),
      Bundle.ofBytes bytes ≠ .error (.unreadable slot format (.completerOverflow mnemonic)) := by
  refine ⟨fun _ _ _ _ _ => extract_eq_overflow_iff, fun _ _ _ => not_overflow_of_lookup?,
    fun operation format _ _ => format.exists_position operation,
    fun operation format source member top field counted =>
      format.read_le_top_of_source operation member counted, ?_, ?_⟩
  · intro raw slot format mnemonic refused
    cases Bundle.error_eq_reservedField refused
  · intro bytes slot format mnemonic refused
    cases Bundle.error_eq_reservedField refused

/-- Extraction itself can overflow: four hints do not fit behind the two completers of `chk.a.clr`. -/
example : extract .chkAClr .b6 0 none = .error (.completerOverflow .chk) := by
  decide

end Itanium
