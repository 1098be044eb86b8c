import Itanium.Proofs.Bundle
import Itanium.Proofs.Dependence
import Itanium.Proofs.Lossless

/-!
# The bits of a bundle

Every bit of a bundle lies in its selector or in one of its three syllables, so these determine the
bundle. An instruction shows its own syllable. The long half is no instruction: the one in slot 2
shows as much of it as its format reads, which for a `brl` is all but the two low bits. So bundles
with one template and the same instructions are equal, up to these two bits.
-/
namespace Itanium

open BitField Layout

/-! ### Selector and slots -/

namespace Bundle

theorem getLsbD_slotBits (raw : BitVec 128) (slot bit : Nat) :
    (slotBits raw slot).getLsbD bit =
      (decide (bit < 41) && raw.getLsbD (5 + 41 * slot + bit)) := by
  rw [slotBits, BitVec.getLsbD_setWidth, BitVec.getLsbD_extractLsb']
  by_cases inside : bit < 41
  · have room : bit < 64 := by omega
    simp only [inside, room, decide_true, Bool.true_and]
  · simp only [inside, decide_false, Bool.false_and, Bool.and_false]

theorem toNat_slotBits (raw : BitVec 128) (slot : Nat) :
    (slotBits raw slot).toNat = raw.toNat / 2 ^ (5 + 41 * slot) % 2 ^ 41 := by
  have narrow := (raw.extractLsb' (5 + 41 * slot) 41).isLt
  rw [slotBits, BitVec.toNat_setWidth, Nat.mod_eq_of_lt (by omega), BitVec.extractLsb'_toNat,
    Nat.shiftRight_eq_div_pow]

theorem toNat_slotBits_lt (raw : BitVec 128) (slot : Nat) : (slotBits raw slot).toNat < 2 ^ 41 := by
  rw [toNat_slotBits]
  exact Nat.mod_lt _ (Nat.two_pow_pos 41)

/-- Where a bit of a bundle lies. -/
theorem selector_or_slot {bit : Nat} (bound : bit < 128) :
    bit < 5 ∨ ∃ slot : Fin 3, ∃ position < 41, bit = 5 + 41 * slot + position := by
  by_cases low : bit < 5
  · exact .inl low
  · exact .inr ⟨⟨(bit - 5) / 41, by omega⟩, (bit - 5) % 41, Nat.mod_lt _ (by decide), by
      dsimp only
      omega⟩

section Two

variable {left right : BitVec 128} (selectors : left.toNat % 32 = right.toNat % 32)

include selectors

theorem getLsbD_eq_of_slots {bit : Nat} (bound : bit < 128)
    (slots : ∀ slot : Fin 3, ∀ position < 41, bit = 5 + 41 * slot + position →
      (slotBits left slot).getLsbD position = (slotBits right slot).getLsbD position) :
    left.getLsbD bit = right.getLsbD bit := by
  rcases selector_or_slot bound with low | ⟨slot, position, inside, rfl⟩
  · have same := congrArg (·.testBit bit) selectors
    have five : 32 = 2 ^ 5 := rfl
    simpa only [five, Nat.testBit_mod_two_pow, low, decide_true, Bool.true_and,
      BitVec.testBit_toNat] using same
  · have same := slots slot position inside rfl
    simpa only [getLsbD_slotBits, inside, decide_true, Bool.true_and] using same

theorem eq_of_slotBits_eq (slots : ∀ slot : Fin 3, slotBits left slot = slotBits right slot) :
    left = right := by
  apply BitVec.eq_of_getLsbD_eq
  intro bit bound
  apply getLsbD_eq_of_slots selectors bound
  intro slot position _ _
  rw [slots slot]

end Two

/-- Bits 46 and 47 are the two low bits of slot 1. Bundles differ in these only if they agree in
their selectors, in the other slots and in the rest of this one. -/
theorem eq_but_low_iff {left right : BitVec 128} :
    (∀ bit, bit ≠ 46 → bit ≠ 47 → left.getLsbD bit = right.getLsbD bit) ↔
      left.toNat % 32 = right.toNat % 32 ∧ slotBits left 0 = slotBits right 0 ∧
        BitField.read ⟨2, 39⟩ (slotBits left 1) = BitField.read ⟨2, 39⟩ (slotBits right 1) ∧
        slotBits left 2 = slotBits right 2 := by
  constructor
  · intro agree
    have slots (slot : Nat) (other : slot ≠ 1) : slotBits left slot = slotBits right slot := by
      apply BitVec.eq_of_getLsbD_eq
      intro position _
      rw [getLsbD_slotBits, getLsbD_slotBits]
      by_cases inside : position < 41
      · rw [agree (5 + 41 * slot + position) (by omega) (by omega)]
      · simp only [inside, decide_false, Bool.false_and]
    refine ⟨?_, slots 0 (by decide), ?_, slots 2 (by decide)⟩
    · apply Nat.eq_of_testBit_eq
      intro bit
      rw [show 32 = 2 ^ 5 from rfl, Nat.testBit_mod_two_pow, Nat.testBit_mod_two_pow,
        BitVec.testBit_toNat, BitVec.testBit_toNat]
      by_cases low : bit < 5
      · rw [agree bit (by omega) (by omega)]
      · simp only [low, decide_false, Bool.false_and]
    · apply Nat.eq_of_testBit_eq
      intro bit
      rw [testBit_read, testBit_read, getLsbD_slotBits, getLsbD_slotBits,
        agree (5 + 41 * 1 + (2 + bit)) (by omega) (by omega)]
  -- A bit belongs to the selector or to one slot, and there to what is known to agree.
  · rintro ⟨selectors, first, middle, last⟩ bit notLow notNext
    by_cases bound : bit < 128
    · apply getLsbD_eq_of_slots selectors bound
      intro slot position inside place
      match slot with
      | 0 => exact congrArg (·.getLsbD position) first
      | 1 =>
        have held : BitField.holds ⟨2, 39⟩ position = true := by
          simp only [holds, Bool.and_eq_true, decide_eq_true_eq]
          omega
        exact getLsbD_eq_of_read_eq middle held
      | 2 => exact congrArg (·.getLsbD position) last
    · rw [BitVec.getLsbD_of_ge _ _ (by omega), BitVec.getLsbD_of_ge _ _ (by omega)]

end Bundle

/-! ### The long half -/

namespace Format

/-- The part of the long half that a format reads: `brl` ignores the two low bits. -/
def longField (format : Format) : BitField :=
  if format ∈ [.x3, .x4] then ⟨2, 39⟩ else longHalf

theorem longFields_of_operandSources (format : Format) (operation : Operation) :
    ∀ source ∈ format.operandSources operation, ∀ field ∈ source.quantity.longFields,
      field = format.longField := by
  refine List.forall_mem_cons.mpr ⟨?_, ?_⟩
  · split <;> exact nofun
  · refine of_sources (fun format sources => ∀ source ∈ sources,
      ∀ field ∈ source.quantity.longFields, field = format.longField) ?_ format operation
    intro format
    cases format <;> decide

theorem longField_mem_recordedLongFields {format : Format} (isLong : format.isLong = true)
    (operation : Operation) : format.longField ∈ format.recordedLongFields operation := by
  -- The sources of a long format do not depend on the operation.
  have sources : format.operandSources operation = format.operandSources .movl := by
    revert isLong
    cases format <;> first | exact fun _ => rfl | exact nofun
  rw [recordedLongFields, faithfulSources, sources]
  revert isLong
  cases format <;> decide

theorem reserved_of_isLong {format : Format} (isLong : format.isLong = true) :
    format.reserved = [] := by
  revert isLong
  cases format <;> decide

end Format

/-- What a long format reads of the long half is all that the instruction shows of it. -/
theorem Instruction.reading_eq_iff {operation : Operation} {format : Format}
    (isLong : format.isLong = true) {syllable left right : Word} :
    reading operation format syllable (some left) = reading operation format syllable (some right) ↔
      format.longField.read left = format.longField.read right := by
  constructor
  · intro equal
    have operands := congrArg Instruction.operands equal
    -- No long format reserves a field, so the syllable passes whatever it is.
    have admits : format.reserved.all (·.admits syllable) = true := by
      rw [Format.reserved_of_isLong isLong]
      rfl
    exact (Format.read_eq_of_recorded operands rfl admits admits).2 _
      (Format.longField_mem_recordedLongFields isLong operation)
  · intro agree
    have operands : format.operands operation syllable left =
        format.operands operation syllable right := by
      ext1 position room
      apply Format.getElem_operands_congr room
      intro source listed
      refine ⟨fun field _ => rfl, ?_⟩
      intro field member
      rw [format.longFields_of_operandSources operation source (List.mem_of_getElem? listed) field
        member]
      exact agree
    simp only [reading, Option.getD_some, operands]

/-! ### What the instructions of a bundle show of it -/

/-- A template with a long half has it in slot 1, between the M unit and the X unit. -/
theorem Template.units_cases (template : Template) :
    (∀ slot, template.units.get slot ≠ .l) ∨ template.units = #v[.m, .l, .x] := by
  cases template <;> decide

/-- Only slot 2 has an X unit. -/
theorem Template.eq_two_of_unit (template : Template) {slot : Fin 3}
    (unit : template.units.get slot = .x) : slot = 2 := by
  revert slot
  cases template <;> decide

theorem Template.mem_mlx_iff (template : Template) :
    template ∈ [.mlx, .mlx_] ↔ template.units = #v[.m, .l, .x] := by
  cases template <;> decide

namespace Bundle

/-- The units are MLX, and the X slot holds a `brl`, whose displacement continues in slot 1. -/
def IsLongBranch (bundle : Bundle) : Prop :=
  bundle.template ∈ [.mlx, .mlx_] ∧
    ∃ slot instruction, bundle.template.units.get slot = .x ∧
      bundle.slots.get slot = .decoded instruction ∧ instruction.format ∈ [.x3, .x4]

section Same

variable {leftRaw rightRaw : BitVec 128} {left right : Bundle}
  (leftDecodes : decode leftRaw = .ok left) (rightDecodes : decode rightRaw = .ok right)

include leftDecodes rightDecodes

theorem template_eq_iff : left.template = right.template ↔
    leftRaw.toNat % 32 = rightRaw.toNat % 32 := by
  rw [← selector_of_decode leftDecodes, ← selector_of_decode rightDecodes]
  constructor
  · intro templates
    rw [templates]
  · intro selectors
    have found := Template.ofSelector?_eq_some_iff.mpr selectors
    rw [Template.ofSelector?_eq_some_iff.mpr rfl] at found
    exact (Option.some.inj found).symm

/-- An instruction is recorded for another bundle if its syllable and what it reads of the long half
are the same there. -/
theorem decoded_iff (templates : left.template = right.template) {slot : Fin 3}
    {instruction : Instruction} (recorded : left.slots.get slot = .decoded instruction) :
    right.slots.get slot = .decoded instruction ↔
      slotBits leftRaw slot = slotBits rightRaw slot ∧
        (left.template.units.get slot = .x →
          instruction.format.longField.read (slotBits leftRaw 1) =
            instruction.format.longField.read (slotBits rightRaw 1)) := by
  obtain ⟨encoding, found, rfl⟩ := exists_reading_of_decode leftDecodes recorded
  have long := OpcodeSpace.isLong_iff_of_lookup? found
  constructor
  · intro recorded'
    obtain ⟨encoding', found', same⟩ := exists_reading_of_decode rightDecodes recorded'
    have bits : slotBits leftRaw slot = slotBits rightRaw slot := congrArg Instruction.bits same
    rw [← bits, ← templates] at found' same
    cases found.symm.trans found'
    refine ⟨bits, ?_⟩
    -- Only an X syllable is read together with slot 1.
    intro unit
    rw [pairedBits, pairedBits, if_pos unit, if_pos unit] at same
    exact (Instruction.reading_eq_iff (long.mpr unit)).mp same
  · rintro ⟨bits, longs⟩
    have unit : right.template.units.get slot ≠ .l := by
      rw [← templates]
      exact unit_ne_of_decode leftDecodes recorded
    obtain ⟨other, recorded'⟩ := exists_instruction_of_decode rightDecodes unit
    obtain ⟨encoding', found', rfl⟩ := exists_reading_of_decode rightDecodes recorded'
    rw [← bits, ← templates] at found'
    cases found.symm.trans found'
    rw [recorded', ← bits, ← templates, Slot.decoded.injEq]
    by_cases unit : left.template.units.get slot = .x
    · rw [pairedBits, pairedBits, if_pos unit, if_pos unit]
      exact (Instruction.reading_eq_iff (long.mpr unit)).mpr (longs unit).symm
    · rw [pairedBits, pairedBits, if_neg unit, if_neg unit]

/-- Bundles with one template and the same instructions are the same, up to what a `brl` ignores. -/
theorem same_iff : (left.template = right.template ∧
      ∀ slot instruction, left.slots.get slot = .decoded instruction →
        right.slots.get slot = .decoded instruction) ↔
    leftRaw = rightRaw ∨ (left.IsLongBranch ∧ right.IsLongBranch ∧
      ∀ bit, bit ≠ 46 → bit ≠ 47 → leftRaw.getLsbD bit = rightRaw.getLsbD bit) := by
  constructor
  · rintro ⟨templates, same⟩
    have selectors := (template_eq_iff leftDecodes rightDecodes).mp templates
    -- Every slot with an instruction shows its bits; the long half shows what the X slot reads.
    have shown (slot : Fin 3) (unit : left.template.units.get slot ≠ .l) :
        slotBits leftRaw slot = slotBits rightRaw slot := by
      obtain ⟨instruction, recorded⟩ := exists_instruction_of_decode leftDecodes unit
      exact ((decoded_iff leftDecodes rightDecodes templates recorded).mp
        (same slot instruction recorded)).1
    rcases left.template.units_cases with short | long
    · exact .inl (eq_of_slotBits_eq selectors fun slot => shown slot (short slot))
    · have first : left.template.units.get 0 ≠ .l := by simp [long]
      have last : left.template.units.get 2 = .x := by simp [long]
      have executes : left.template.units.get 2 ≠ .l := by simp [last]
      obtain ⟨third, recorded⟩ := exists_instruction_of_decode leftDecodes executes
      have recorded' := same 2 third recorded
      have middle := ((decoded_iff leftDecodes rightDecodes templates recorded).mp recorded').2 last
      rw [Format.longField] at middle
      by_cases branch : third.format ∈ [.x3, .x4]
      · rw [if_pos branch] at middle
        have mlx := left.template.mem_mlx_iff.mpr long
        refine .inr ⟨⟨mlx, 2, third, last, recorded, branch⟩,
          ⟨templates ▸ mlx, 2, third, templates ▸ last, recorded', branch⟩, ?_⟩
        exact eq_but_low_iff.mpr ⟨selectors, shown 0 first, middle, shown 2 executes⟩
      · rw [if_neg branch] at middle
        refine .inl (eq_of_slotBits_eq selectors ?_)
        intro slot
        match slot with
        | 0 => exact shown 0 first
        | 1 =>
          have covered : BitField.covers [longHalf] 41 = true := by decide
          exact BitField.eq_of_covers covered (List.forall_mem_singleton.mpr middle)
            (toNat_slotBits_lt _ _) (toNat_slotBits_lt _ _)
        | 2 => exact shown 2 executes
  · rintro (rfl | ⟨⟨mlx, slot, third, unit, recorded, branch⟩, -, agree⟩)
    · cases leftDecodes.symm.trans rightDecodes
      exact ⟨rfl, fun _ _ => id⟩
    · have long := left.template.mem_mlx_iff.mp mlx
      obtain rfl := left.template.eq_two_of_unit unit
      obtain ⟨selectors, first, middle, last⟩ := eq_but_low_iff.mp agree
      have templates := (template_eq_iff leftDecodes rightDecodes).mpr selectors
      refine ⟨templates, ?_⟩
      intro slot instruction recorded'
      rw [decoded_iff leftDecodes rightDecodes templates recorded']
      match slot with
      | 0 => exact ⟨first, fun unit => by simp [long] at unit⟩
      | 1 => exact absurd (by simp [long]) (unit_ne_of_decode leftDecodes recorded')
      | 2 =>
        cases recorded.symm.trans recorded'
        rw [Format.longField, if_pos branch]
        exact ⟨last, fun _ => middle⟩

end Same

end Bundle

end Itanium
