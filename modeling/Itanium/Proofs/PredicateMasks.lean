import Itanium.Proofs.Overwriting

/-!
# Masks for the predicate registers

A move to the predicate registers is given the mask of the registers that it writes, as a number in
two's complement. Bit 0 of the mask of `mov pr` is no part of the syllable, nor are the lowest
sixteen bits of the mask of `mov pr.rot`. The one is scaled, but not extended by its sign; the other
is extended, but not scaled.
-/
namespace Itanium

open BitField Layout

/-! ### Signs and scales -/

section Narrow

variable {width : Nat}

/-- Extending a number with zeros keeps its value if it is not negative. -/
theorem setWidth_eq_signExtend_iff {wider : Nat} (strict : width < wider)
    (number : BitVec width) :
    number.setWidth wider = number.signExtend wider ↔ number.msb = false := by
  constructor
  · intro equal
    have sign := congrArg BitVec.msb equal
    rw [BitVec.msb_setWidth, BitVec.getLsbD_of_ge _ _ (by omega), Bool.and_false,
      BitVec.msb_signExtend, if_neg (by omega), decide_eq_true (by omega), Bool.true_and] at sign
    exact sign.symm
  · exact fun positive => (BitVec.signExtend_eq_setWidth_of_msb_false positive).symm

/-- Clear bits below a number scale it, whether or not it is negative. -/
theorem toInt_ofNat_mul_two_pow (scale number : Nat) :
    (BitVec.ofNat (width + scale) (number * 2 ^ scale)).toInt =
      (BitVec.ofNat width number).toInt * 2 ^ scale := by
  have wrapped : number * 2 ^ scale % 2 ^ (width + scale) = number % 2 ^ width * 2 ^ scale := by
    rw [pow_add, Nat.mul_mod_mul_right]
  rw [BitVec.toInt_eq_toNat_cond, BitVec.toInt_eq_toNat_cond, BitVec.toNat_ofNat,
    BitVec.toNat_ofNat, wrapped, pow_add, ← mul_assoc]
  simp only [Nat.mul_lt_mul_right (Nat.two_pow_pos scale)]
  split
  next positive => push_cast; rfl
  next negative => push_cast; rw [sub_mul]

end Narrow

/-! ### The masks that are encoded -/

namespace Word

variable (syllable : Word)

/-- The mask of the predicate registers, of which the last stands for all rotating ones. -/
def predicateMask : BitVec 17 :=
  BitVec.ofNat 17 ((⟨36, 1⟩ : BitField).read syllable * 2 ^ 16 +
    (⟨24, 8⟩ : BitField).read syllable * 2 ^ 8 + (⟨6, 7⟩ : BitField).read syllable * 2)

/-- The mask of the rotating predicate registers, which begin with the sixteenth. -/
def rotatingMask : BitVec 44 :=
  BitVec.ofNat 44 ((⟨36, 1⟩ : BitField).read syllable * 2 ^ 43 +
    (⟨6, 27⟩ : BitField).read syllable * 2 ^ 16)

theorem toNat_predicateMask : syllable.predicateMask.toNat =
    (⟨36, 1⟩ : BitField).read syllable * 2 ^ 16 + (⟨24, 8⟩ : BitField).read syllable * 2 ^ 8 +
      (⟨6, 7⟩ : BitField).read syllable * 2 := by
  have sign := (⟨36, 1⟩ : BitField).read_lt syllable
  have middle := (⟨24, 8⟩ : BitField).read_lt syllable
  have low := (⟨6, 7⟩ : BitField).read_lt syllable
  rw [predicateMask, BitVec.toNat_ofNat]
  simp only at sign middle low
  omega

/-- The mask is negative if its highest bit is set, which no other field reaches. -/
theorem msb_predicateMask :
    syllable.predicateMask.msb = false ↔ (⟨36, 1⟩ : BitField).read syllable = 0 := by
  have middle := (⟨24, 8⟩ : BitField).read_lt syllable
  have low := (⟨6, 7⟩ : BitField).read_lt syllable
  rw [BitVec.msb_eq_false_iff_two_mul_lt, toNat_predicateMask]
  simp only at middle low
  omega

end Word

/-! ### The operands that are shown -/

namespace Format

variable (operation : Operation) (syllable long : Word)

theorem get_operands_i23 : (i23.operands operation syllable long).get 3 =
    ⟨.imm, syllable.predicateMask.setWidth 64⟩ := by
  have listed : (i23.operandSources operation)[3]? =
      some (.immediate (.unsigned [⟨6, 7⟩, ⟨24, 8⟩, ⟨36, 1⟩] 1)) := rfl
  have narrow : totalWidth [⟨6, 7⟩, ⟨24, 8⟩, ⟨36, 1⟩] ≤ 64 := by decide
  have small := gather_lt syllable [⟨6, 7⟩, ⟨24, 8⟩, ⟨36, 1⟩]
  rw [← Word.toNat_gatherUnsigned syllable narrow] at small
  have scaled : syllable.gatherUnsigned [⟨6, 7⟩, ⟨24, 8⟩, ⟨36, 1⟩] <<< 1 =
      syllable.predicateMask.setWidth 64 := by
    apply BitVec.eq_of_toNat_eq
    rw [Word.toNat_shiftLeft_of_lt (by decide) small, Word.toNat_gatherUnsigned _ narrow,
      BitVec.toNat_setWidth_of_le (by decide), Word.toNat_predicateMask]
    simp only [gather, Nat.shiftLeft_eq]
    omega
  rw [← scaled, Vector.get_eq_getElem]
  exact operands_of_operandSources listed syllable long (by decide)

/-- The fields are a number of 28 bits, which the mask has sixteen bits above its lowest. -/
theorem get_operands_i24 : ∃ shown : Word,
    (i24.operands operation syllable long).get 2 = ⟨.imm, shown⟩ ∧
      syllable.rotatingMask.toInt = shown.toInt * 2 ^ 16 := by
  have listed : (i24.operandSources operation)[2]? = some (.signed [⟨6, 27⟩, ⟨36, 1⟩]) := rfl
  refine ⟨syllable.gatherSigned [⟨6, 27⟩, ⟨36, 1⟩], ?_, ?_⟩
  · rw [Vector.get_eq_getElem, ← BitVec.shiftLeft_zero (syllable.gatherSigned _)]
    exact operands_of_operandSources listed syllable long (by decide)
  · have fields : (⟨36, 1⟩ : BitField).read syllable * 2 ^ 43 +
        (⟨6, 27⟩ : BitField).read syllable * 2 ^ 16 =
          gather syllable [⟨6, 27⟩, ⟨36, 1⟩] * 2 ^ 16 := by
      simp only [gather, Nat.shiftLeft_eq]
      omega
    rw [Word.gatherSigned_eq_signExtend (by decide) (by decide),
      BitVec.toInt_signExtend_of_le (by decide), Word.rotatingMask, fields]
    exact toInt_ofNat_mul_two_pow 16 _

end Format

/-- A move to the predicate registers shows its mask without the sign, and a move to the rotating
ones shows it without the scale. The first is the mask that is encoded if this is not negative, the
second if it is zero. -/
theorem predicate_masks_lose_sign_or_scale {syllable : Word} {encoding : Encoding}
    (found : OpcodeSpace.lookup? .i syllable = some encoding) (long : Option Word) :
    (encoding.format = .i23 → ∃ instruction shown, encoding.Reads syllable long instruction ∧
      instruction.operands.get 3 = ⟨.imm, shown⟩ ∧
      shown = syllable.predicateMask.setWidth 64 ∧
      (shown = syllable.predicateMask.signExtend 64 ↔ (⟨36, 1⟩ : BitField).read syllable = 0)) ∧
    (encoding.format = .i24 → ∃ instruction shown, encoding.Reads syllable long instruction ∧
      instruction.operands.get 2 = ⟨.imm, shown⟩ ∧
      syllable.rotatingMask.toInt = shown.toInt * 2 ^ 16 ∧
      (shown = syllable.rotatingMask.signExtend 64 ↔ syllable.rotatingMask = 0)) := by
  obtain ⟨operation, format⟩ := encoding
  have paired : ExecutionUnit.i = .x → long.isSome = true := (absurd · (by decide))
  have extracted := extract_of_lookup? found paired
  constructor
  · rintro rfl
    refine ⟨.reading operation .i23 syllable long, _, extracted,
      Format.get_operands_i23 operation syllable _, rfl, ?_⟩
    rw [setWidth_eq_signExtend_iff (by decide), Word.msb_predicateMask]
  · rintro rfl
    obtain ⟨shown, operand, scaled⟩ := Format.get_operands_i24 operation syllable (long.getD 0)
    refine ⟨.reading operation .i24 syllable long, shown, extracted, operand, scaled, ?_⟩
    have zero : (0 : BitVec 44).toInt = 0 := rfl
    rw [← BitVec.toInt_inj, ← BitVec.toInt_inj, BitVec.toInt_signExtend_of_le (by decide), scaled,
      zero]
    omega

/-- A mask without predicate 16 is shown as it is encoded. -/
theorem predicate_masks_lose_sign_or_scale_mov :
    OpcodeSpace.lookup? .i 0x600001FC0 = some ⟨.mov, .i23⟩ ∧
      (0x600001FC0 : Word).predicateMask = 0xFE ∧
      ∃ instruction, Encoding.Reads ⟨.mov, .i23⟩ 0x600001FC0 none instruction ∧
        instruction.operands.get 3 = ⟨.imm, (0xFE : BitVec 17).signExtend 64⟩ := by
  have found : OpcodeSpace.lookup? .i 0x600001FC0 = some ⟨.mov, .i23⟩ := by decide
  have mask : (0x600001FC0 : Word).predicateMask = 0xFE := by decide
  have positive : (⟨36, 1⟩ : BitField).read 0x600001FC0 = 0 := by decide
  obtain ⟨instruction, shown, reads, operand, -, exact_iff⟩ :=
    (predicate_masks_lose_sign_or_scale found none).1 rfl
  rw [exact_iff.mpr positive, mask] at operand
  exact ⟨found, mask, instruction, reads, operand⟩

/-- A mask with predicate 16 is shown without the rotating predicates above it, and a mask of
rotating predicates as that of the predicates sixteen below. -/
theorem predicate_masks_lose_sign_or_scale_both :
    (OpcodeSpace.lookup? .i 0x1600000000 = some ⟨.mov, .i23⟩ ∧
      ∃ instruction, extract .mov .i23 0x1600000000 none = .ok instruction ∧
        instruction.operands.get 3 = ⟨.imm, 0x10000⟩ ∧
        (0x1600000000 : Word).predicateMask.signExtend 64 = 0xFFFFFFFFFFFF0000) ∧
    (OpcodeSpace.lookup? .i 0x400000040 = some ⟨.mov, .i24⟩ ∧
      ∃ instruction, extract .mov .i24 0x400000040 none = .ok instruction ∧
        instruction.operands.get 2 = ⟨.imm, 1⟩ ∧
        (0x400000040 : Word).rotatingMask.signExtend 64 = 0x10000) :=
  ⟨⟨by decide, _, rfl, by decide, by decide⟩,
    by decide, _, rfl, by decide, by decide⟩

end Itanium
