import Itanium.Proofs.Listing

/-!
# Destinations

The operands before the source index are destinations, so an immediate or a displacement has no
place there. It keeps to this wherever there is another operand. A lone number is counted as a
destination: the formats that have nothing else behind the predicate share the source index of
formats which write one register.
-/
namespace Itanium

open Layout

theorem OperandKind.isNumber_iff {kind : OperandKind} :
    kind.isNumber = true ↔ kind ∈ [.imm, .disp] := by
  cases kind <;> decide

/-- The formats whose only operand behind the predicate is an immediate or a displacement. -/
def Format.loneNumbers : List Format :=
  [.b1, .b2, .b9, .f14, .f15, .f16, .i18, .i19, .m37, .m44, .m48, .x1, .x3, .x5]

/-- A lone number is always there, and no other operand is. -/
theorem Format.sources_of_mem_loneNumbers {format : Format} (lone : format ∈ loneNumbers)
    (operation : Operation) : ∃ kind quantity, kind.isNumber = true ∧
      format.sources operation = [⟨.always kind, quantity, none⟩] ∧
      format.sourceIndex operation.mnemonic = 2 := by
  simp only [loneNumbers, List.mem_cons, List.not_mem_nil, or_false] at lone
  rcases lone with rfl | rfl | rfl | rfl | rfl | rfl | rfl | rfl | rfl | rfl | rfl | rfl | rfl | rfl
  all_goals exact ⟨_, _, rfl, rfl, rfl⟩

section Operands

variable {encoding : Encoding} (syllable long : Word)

theorem Format.get_operands_of_mem_loneNumbers {format : Format} (lone : format ∈ loneNumbers)
    (operation : Operation) :
    ((format.operands operation syllable long).get 1).kind.isNumber = true ∧
      ∀ position : Fin 7, 1 < position →
        (format.operands operation syllable long).get position = .absent := by
  obtain ⟨kind, quantity, number, sources, -⟩ := sources_of_mem_loneNumbers lone operation
  constructor
  · have listed : (format.operandSources operation)[1]? =
        some ⟨.always kind, quantity, none⟩ := by
      rw [operandSources, sources]
      rfl
    rw [Vector.get_eq_getElem]
    exact (congrArg (·.kind.isNumber)
      (operands_of_operandSources listed syllable long (by decide))).trans number
  · intro position behind
    have beyond : (format.operandSources operation)[position.val]? = none := by
      rw [operandSources, sources, List.getElem?_eq_none_iff]
      exact behind
    rw [Vector.get_eq_getElem, getElem_operands _ _ _ _ position.isLt, beyond]
    rfl

/-- No operand before the source index can be a number. -/
def Encoding.KeepsNumbersBehind (encoding : Encoding) : Prop :=
  ∀ position < encoding.format.sourceIndex encoding.operation.mnemonic, 0 < position →
    ∀ source ∈ (encoding.format.operandSources encoding.operation)[position]?,
      ∀ kind ∈ source.kinds encoding.operation, kind.isNumber = false

instance (encoding : Encoding) : Decidable encoding.KeepsNumbersBehind :=
  inferInstanceAs (Decidable (∀ _ < _, _))

theorem Encoding.keepsNumbersBehind_of_lookup? {unit : ExecutionUnit} {syllable : Word}
    {encoding : Encoding} (found : OpcodeSpace.lookup? unit syllable = some encoding) :
    encoding.format ∉ Format.loneNumbers → encoding.KeepsNumbersBehind := by
  refine OpcodeSpace.of_lookup? (fun _ encoding =>
    encoding.format ∉ Format.loneNumbers → encoding.KeepsNumbersBehind) ?_ found
  intro unit
  cases unit <;> decide +kernel

theorem Encoding.KeepsNumbersBehind.isNumber_get_operands (keeps : encoding.KeepsNumbersBehind)
    {position : Fin 7} (behind : 0 < position)
    (before : position.val < encoding.format.sourceIndex encoding.operation.mnemonic) :
    ((encoding.format.operands encoding.operation syllable long).get position).kind.isNumber =
      false := by
  rw [Vector.get_eq_getElem, Format.getElem_operands _ _ _ _ position.isLt]
  cases listed : (encoding.format.operandSources encoding.operation)[position.val]? with
  | none => rfl
  | some source =>
    rw [Option.map_some, Option.getD_some, Source.operand]
    split
    next present =>
      exact keeps position before behind source listed _
        (source.kind_mem_kinds encoding.operation syllable)
    next absent => rfl

end Operands

namespace Bundle

/-- An immediate or a displacement before the source index is the only operand of its instruction
behind the predicate, which is a matter of the format. -/
theorem numbers_before_source_index {raw : BitVec 128} {bundle : Bundle}
    (decodes : decode raw = .ok bundle) {slot : Fin 3} {instruction : Instruction}
    (recorded : bundle.slots.get slot = .decoded instruction) :
    (∀ position : Fin 7, (1 ≤ position ∧ position.val < instruction.sourceIndex ∧
        (instruction.operands.get position).kind ∈ [.imm, .disp]) ↔
      position = 1 ∧ instruction.format ∈ Format.loneNumbers) ∧
    (instruction.format ∈ Format.loneNumbers → instruction.sourceIndex = 2 ∧
      ∀ position : Fin 7, 1 < position → instruction.operands.get position = .absent) := by
  obtain ⟨encoding, found, rfl⟩ := exists_reading_of_decode decodes recorded
  by_cases lone : encoding.format ∈ Format.loneNumbers
  · obtain ⟨number, alone⟩ := Format.get_operands_of_mem_loneNumbers (slotBits raw slot)
      ((pairedBits (bundle.template.units.get slot) raw).getD 0) lone encoding.operation
    obtain ⟨_, _, _, _, two⟩ := Format.sources_of_mem_loneNumbers lone encoding.operation
    refine ⟨fun position => ⟨?_, ?_⟩, fun _ => ⟨two, alone⟩⟩
    · rintro ⟨behind, before, -⟩
      simp only [Instruction.reading, two] at before
      exact ⟨by omega, lone⟩
    · rintro ⟨rfl, -⟩
      exact ⟨le_rfl, two.ge, OperandKind.isNumber_iff.mp number⟩
  -- The other formats have no number among their destinations.
  · have keeps := Encoding.keepsNumbersBehind_of_lookup? found lone
    refine ⟨fun position => iff_of_false ?_ fun both => lone both.2,
      fun member => absurd member lone⟩
    rintro ⟨behind, before, number⟩
    have other := keeps.isNumber_get_operands (slotBits raw slot)
      ((pairedBits (bundle.template.units.get slot) raw).getD 0) behind before
    exact Bool.false_ne_true (other.symm.trans (OperandKind.isNumber_iff.mpr number))

/-- The immediate of `adds` is a source. -/
theorem numbers_before_source_index_adds :
    ∃ bundle, decode 0x40000000004000000000210000000010 = .ok bundle ∧
      ∃ instruction, bundle.slots.get 0 = .decoded instruction ∧
        instruction.operands.get 2 = ⟨.imm, 0⟩ ∧
        ∀ position : Fin 7, 1 ≤ position → position.val < instruction.sourceIndex →
          (instruction.operands.get position).kind ∉ [.imm, .disp] := by
  have decodes : decode 0x40000000004000000000210000000010 = .ok ⟨.mib, #v[
      .decoded (.reading .adds .a4 0x10800000000 none),
      .decoded (.reading .add .a1 0x10000000000 none),
      .decoded (.reading .brCond .b1 0x8000000000 none)]⟩ := by
    decide
  have places := (@numbers_before_source_index _ _ decodes 0 _ rfl).1
  refine ⟨_, decodes, .reading .adds .a4 0x10800000000 none, rfl, by decide, ?_⟩
  intro position behind before number
  exact absurd ((places position).mp ⟨behind, before, number⟩).2 (by decide)

/-- The displacement of `br.cond` is counted as a destination. -/
theorem numbers_before_source_index_but_br :
    ∃ bundle, decode 0x40000000004000000000200000000010 = .ok bundle ∧
      ∃ instruction, bundle.slots.get 2 = .decoded instruction ∧
        1 < instruction.sourceIndex ∧ (instruction.operands.get 1).kind = .disp := by
  have decodes : decode 0x40000000004000000000200000000010 = .ok ⟨.mib, #v[
      .decoded (.reading .add .a1 0x10000000000 none),
      .decoded (.reading .add .a1 0x10000000000 none),
      .decoded (.reading .brCond .b1 0x8000000000 none)]⟩ := by
    decide
  exact ⟨_, decodes, _, rfl, by decide, by decide⟩

end Bundle

end Itanium
