import Itanium.Proofs.FixedFields

/-!
# Discriminators

The opcode space of a unit is read through a few fields, the major opcode and those that its pages
tell encodings apart by. The other bits of a syllable never change what is found. So a walk through
the words whose bits all lie in these fields meets every encoding of the unit: counting within a
mask takes `word` to `(word - mask) &&& mask`, and comes by every word within the mask before it is
back at zero.
-/
namespace Itanium

open BitField

/-! ### Counting within a mask -/

namespace Word

variable {mask word : Word}

/-- The next word within the mask, or zero behind the last. -/
def advance (mask word : Word) : Word :=
  (word - mask) &&& mask

/-- The words that counting within the mask goes through, from zero until it is to return there. -/
inductive Counted (mask : Word) : Word → Prop
  | zero : Counted mask 0
  | next {word : Word} (counted : Counted mask word) (more : advance mask word ≠ 0) :
    Counted mask (advance mask word)

theorem Counted.and_mask (counted : Counted mask word) : word &&& mask = word := by
  cases counted with
  | zero => exact BitVec.zero_and
  | next => rw [advance, BitVec.and_assoc, BitVec.and_self]

/-- Subtracting the mask fills the bits outside it before it adds one, so the carry passes them. -/
theorem and_sub_mask (mask previous : Word) :
    (previous &&& mask) - mask = previous + 1 + (~~~mask &&& ~~~previous) := by
  have clear : previous &&& mask &&& ~~~mask = 0 := by
    ext bit
    simp only [BitVec.getElem_and, BitVec.getElem_not]
    cases previous[bit] <;> cases mask[bit] <;> simp
  have free : previous &&& (~~~mask &&& ~~~previous) = 0 := by
    ext bit
    simp only [BitVec.getElem_and, BitVec.getElem_not]
    cases previous[bit] <;> cases mask[bit] <;> simp
  have filled : previous &&& mask ||| ~~~mask = previous ||| (~~~mask &&& ~~~previous) := by
    ext bit
    simp only [BitVec.getElem_or, BitVec.getElem_and, BitVec.getElem_not]
    cases previous[bit] <;> cases mask[bit] <;> rfl
  -- Words without a common bit add up to their union, and the unions are equal.
  calc (previous &&& mask) - mask
    _ = (previous &&& mask) + ~~~mask + 1 := by
      rw [BitVec.sub_eq_add_neg, BitVec.neg_eq_not_add, BitVec.add_assoc]
      rfl
    _ = previous + (~~~mask &&& ~~~previous) + 1 := by
      rw [BitVec.add_eq_or_of_and_eq_zero _ _ clear, filled,
        ← BitVec.add_eq_or_of_and_eq_zero _ _ free]
    _ = previous + 1 + (~~~mask &&& ~~~previous) := add_right_comm ..

/-- A word within the mask is the next after the word that has the bits of its predecessor. -/
theorem advance_and_mask (within : word &&& mask = word) :
    advance mask ((word - 1) &&& mask) = word := by
  have apart : word &&& (~~~mask &&& ~~~(word - 1)) = 0 := by
    rw [← BitVec.and_assoc, ← within]
    ext bit
    simp only [BitVec.getElem_and, BitVec.getElem_not]
    cases word[bit] <;> cases mask[bit] <;> simp
  rw [advance, and_sub_mask, BitVec.sub_add_cancel, BitVec.add_eq_or_of_and_eq_zero _ _ apart]
  -- What is filled lies outside the mask.
  generalize word - 1 = previous
  rw [← within]
  ext bit
  simp only [BitVec.getElem_or, BitVec.getElem_and, BitVec.getElem_not]
  cases word[bit] <;> cases mask[bit] <;> simp

/-- Counting comes by every word within the mask. -/
theorem counted_of_and_mask (within : word &&& mask = word) : Counted mask word := by
  induction small : word.toNat using Nat.strongRecOn generalizing word with
  | ind size ih =>
    -- Any other word comes after one that is smaller, so the induction is on its size.
    by_cases zero : word = 0
    · rw [zero]
      exact .zero
    · have positive : 0 < word.toNat := BitVec.toNat_pos_of_ne_zero zero
      have before : ((word - 1) &&& mask).toNat < size := by
        have below : ((word - 1) &&& mask).toNat ≤ (word - 1).toNat := by
          rw [BitVec.toNat_and]
          exact Nat.and_le_left
        rw [BitVec.toNat_sub_of_le (by bv_omega)] at below
        have one : (1 : Word).toNat = 1 := rfl
        omega
      have counted := ih _ before (by rw [BitVec.and_assoc, BitVec.and_self]) rfl
      have here := advance_and_mask within
      rw [← here]
      exact .next counted (by rwa [here])

end Word

/-! ### The discriminators of a unit -/

namespace OpcodeSpace

open Word

/-- The fields that tell the encodings of a unit apart. -/
def discriminators : ExecutionUnit → List BitField
  | .m => [majorOpcode, ⟨12, 1⟩, ⟨26, 11⟩]
  | .i => [majorOpcode, ⟨12, 2⟩, ⟨19, 1⟩, ⟨22, 1⟩, ⟨26, 11⟩]
  | .f => [majorOpcode, ⟨26, 11⟩]
  | .b => [majorOpcode, ⟨6, 3⟩, ⟨27, 6⟩]
  | .x => [majorOpcode, ⟨6, 3⟩, ⟨20, 1⟩, ⟨26, 7⟩, ⟨33, 3⟩]
  | .l => [majorOpcode]

theorem fields_within_discriminators (unit : ExecutionUnit) :
    ∀ rule ∈ rules unit, rule.fields.all (isWithin (discriminators unit)) = true := by
  cases unit <;> decide +kernel

theorem lookup?_congr_of_discriminators {unit : ExecutionUnit} {left right : Word}
    (agree : Agree (discriminators unit) left right) : lookup? unit left = lookup? unit right :=
  lookup?_congr fun rule member => agree.of_isWithin (fields_within_discriminators unit rule member)

/-- The mask of a sweep through the opcode space of a unit. -/
def sweepMask (unit : ExecutionUnit) : Word :=
  BitVec.ofNat 64 (maskAll (discriminators unit))

/-- Syllables that agree on the discriminators have the same encoding, and every encoding is that of
a word which has no bit outside the discriminators and which the sweep comes by. -/
theorem sweep_finds_every_encoding (unit : ExecutionUnit) :
    (∀ left right : Word, Agree (discriminators unit) left right →
      lookup? unit left = lookup? unit right) ∧
    ∀ (syllable : Word) (encoding : Encoding), lookup? unit syllable = some encoding →
      ∃ swept : Word, lookup? unit swept = some encoding ∧ Counted (sweepMask unit) swept ∧
        ∀ bit, (∀ field ∈ discriminators unit, field.holds bit = false) →
          swept.getLsbD bit = false := by
  refine ⟨fun left right => lookup?_congr_of_discriminators, ?_⟩
  intro syllable encoding found
  have counted : Counted (sweepMask unit) (keep (discriminators unit) syllable) := by
    apply counted_of_and_mask
    rw [keep, sweepMask, BitVec.and_assoc, BitVec.and_self]
  refine ⟨keep (discriminators unit) syllable, ?_, counted, ?_⟩
  · rw [lookup?_congr_of_discriminators (agree_keep _ syllable), found]
  · intro bit outside
    have clear : (maskAll (discriminators unit)).testBit bit = false := by
      rw [Bool.eq_false_iff]
      intro set
      obtain ⟨field, member, held⟩ := exists_of_testBit_maskAll set
      rw [outside field member] at held
      cases held
    rw [← counted.and_mask, BitVec.getLsbD_and, sweepMask, BitVec.getLsbD_ofNat, clear,
      Bool.and_false, Bool.and_false]

/-- The registers of an `ld8` lie outside the discriminators, and the sweep comes by it without
them. -/
theorem sweep_finds_every_encoding_ld8 :
    lookup? .m 0x80C3FFEFFF = some ⟨.ld8, .m1⟩ ∧
      ∃ swept : Word, lookup? .m swept = some ⟨.ld8, .m1⟩ ∧ Counted (sweepMask .m) swept ∧
        swept.getLsbD 6 = false := by
  have found : lookup? .m 0x80C3FFEFFF = some ⟨.ld8, .m1⟩ :=
    ((sweep_finds_every_encoding .m).1 0x80C3FFEFFF 0x80C0000000 (by decide)).trans
      (by decide)
  obtain ⟨swept, same, counted, clear⟩ := (sweep_finds_every_encoding .m).2 _ _ found
  exact ⟨found, swept, same, counted, clear 6 (by decide)⟩

end OpcodeSpace

end Itanium
