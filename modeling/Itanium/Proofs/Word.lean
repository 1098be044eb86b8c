import Itanium.Word
import Mathlib

/-!
# Bits of fields

A field holds a run of the word's bits, and a gathered number holds the bits of its fields one run
above the other. Hence a gathered number determines every field that it is gathered from, and words
that agree on fields which together hold all their bits are equal. Sign extension keeps the bits
below the sign, so a signed number determines no less.
-/
namespace Itanium

/-- Two numbers, one above the other, need the bits of both. -/
theorem add_mul_two_pow_lt {low high width above : Nat} (lowBound : low < 2 ^ width)
    (highBound : high < 2 ^ above) : low + high * 2 ^ width < 2 ^ (width + above) := by
  calc
    low + high * 2 ^ width < (high + 1) * 2 ^ width := by rw [Nat.succ_mul]; omega
    _ ≤ 2 ^ above * 2 ^ width := Nat.mul_le_mul_right _ highBound
    _ = 2 ^ (width + above) := by rw [pow_add, Nat.mul_comm]

theorem eq_and_eq_of_add_mul_two_pow_eq {low high low' high' width : Nat}
    (lowBound : low < 2 ^ width) (lowBound' : low' < 2 ^ width)
    (equal : low + high * 2 ^ width = low' + high' * 2 ^ width) : low = low' ∧ high = high' := by
  have lows := congrArg (· % 2 ^ width) equal
  simp only [Nat.add_mul_mod_self_right, Nat.mod_eq_of_lt lowBound,
    Nat.mod_eq_of_lt lowBound'] at lows
  exact ⟨lows, Nat.eq_of_mul_eq_mul_right (Nat.two_pow_pos width) (by omega)⟩

namespace BitField

/-! ### One field -/

theorem read_eq_mod (field : BitField) (word : Word) :
    field.read word = word.toNat / 2 ^ field.offset % 2 ^ field.width := by
  rw [read, Nat.shiftRight_eq_div_pow, Nat.one_shiftLeft]

theorem read_lt (field : BitField) (word : Word) : field.read word < 2 ^ field.width := by
  rw [read_eq_mod]
  exact Nat.mod_lt _ (Nat.two_pow_pos _)

theorem read_eq_extract (field : BitField) (word : Word) :
    field.read word = (word.extractLsb' field.offset field.width).toNat := by
  rw [BitVec.extractLsb'_toNat, read, Nat.one_shiftLeft]

theorem testBit_read (field : BitField) (word : Word) (bit : Nat) :
    (field.read word).testBit bit =
      (decide (bit < field.width) && word.getLsbD (field.offset + bit)) := by
  rw [read, Nat.one_shiftLeft, Nat.testBit_mod_two_pow, Nat.testBit_shiftRight,
    BitVec.testBit_toNat]

/-- The bits of a word that the field is read from. -/
def holds (field : BitField) (bit : Nat) : Bool :=
  field.offset ≤ bit && bit < field.offset + field.width

theorem getLsbD_eq_of_read_eq {field : BitField} {left right : Word} {bit : Nat}
    (equal : field.read left = field.read right) (held : field.holds bit = true) :
    left.getLsbD bit = right.getLsbD bit := by
  simp only [holds, Bool.and_eq_true, decide_eq_true_eq] at held
  have same := congrArg (·.testBit (bit - field.offset)) equal
  simp only [testBit_read, show bit - field.offset < field.width by omega, decide_true,
    Bool.true_and, show field.offset + (bit - field.offset) = bit by omega] at same
  exact same

/-! ### Several fields -/

/-- The bits of a field as a number. -/
def mask (field : BitField) : Nat :=
  (2 ^ field.width - 1) <<< field.offset

theorem testBit_mask (field : BitField) (bit : Nat) : field.mask.testBit bit = field.holds bit := by
  rw [mask, Nat.testBit_shiftLeft, Nat.testBit_two_pow_sub_one, holds, Bool.eq_iff_iff]
  simp only [Bool.and_eq_true, decide_eq_true_eq]
  omega

def maskAll (fields : List BitField) : Nat :=
  fields.foldr (fun field rest => field.mask ||| rest) 0

theorem exists_of_testBit_maskAll {fields : List BitField} {bit : Nat}
    (set : (maskAll fields).testBit bit = true) : ∃ field ∈ fields, field.holds bit = true := by
  induction fields with
  | nil => simp [maskAll] at set
  | cons field rest ih =>
    rw [maskAll, List.foldr_cons, Nat.testBit_or, testBit_mask, Bool.or_eq_true] at set
    rcases set with held | later
    · exact ⟨field, List.mem_cons_self, held⟩
    · obtain ⟨other, member, held⟩ := ih later
      exact ⟨other, List.mem_cons_of_mem field member, held⟩

/-- The fields hold the bits below the width. -/
def covers (fields : List BitField) (width : Nat) : Bool :=
  maskAll fields == 2 ^ width - 1

theorem eq_of_covers {fields : List BitField} {width : Nat} {left right : Word}
    (covered : covers fields width = true)
    (agree : ∀ field ∈ fields, field.read left = field.read right)
    (leftBound : left.toNat < 2 ^ width) (rightBound : right.toNat < 2 ^ width) :
    left = right := by
  apply BitVec.eq_of_getLsbD_eq
  intro bit _
  -- A bit below the width lies in some field; above the width neither word has a bit.
  by_cases inside : bit < width
  · have set : (maskAll fields).testBit bit = true := by
      rw [eq_of_beq covered, Nat.testBit_two_pow_sub_one, decide_eq_true inside]
    obtain ⟨field, member, held⟩ := exists_of_testBit_maskAll set
    exact getLsbD_eq_of_read_eq (agree field member) held
  · have beyond : 2 ^ width ≤ 2 ^ bit := Nat.pow_le_pow_right (by decide) (by omega)
    rw [← BitVec.testBit_toNat, ← BitVec.testBit_toNat,
      Nat.testBit_lt_two_pow (by omega), Nat.testBit_lt_two_pow (by omega)]

theorem gather_singleton (word : Word) (field : BitField) :
    gather word [field] = field.read word := by
  rw [gather, gather, Nat.zero_shiftLeft, Nat.add_zero]

theorem gather_lt (word : Word) (fields : List BitField) :
    gather word fields < 2 ^ totalWidth fields := by
  induction fields with
  | nil => simp [gather, totalWidth]
  | cons field rest ih =>
    rw [gather, totalWidth, Nat.shiftLeft_eq]
    exact add_mul_two_pow_lt (field.read_lt word) ih

/-- Gathering loses no field. -/
theorem read_eq_of_gather_eq {fields : List BitField} {left right : Word}
    (equal : gather left fields = gather right fields) :
    ∀ field ∈ fields, field.read left = field.read right := by
  induction fields with
  | nil => simp
  | cons field rest ih =>
    simp only [gather, Nat.shiftLeft_eq] at equal
    -- The first field is the remainder, the others are the quotient.
    obtain ⟨low, high⟩ :=
      eq_and_eq_of_add_mul_two_pow_eq (field.read_lt left) (field.read_lt right) equal
    intro other member
    rcases List.mem_cons.mp member with rfl | later
    · exact low
    · exact ih high other later

end BitField

namespace Word

open BitField

/-! ### Gathered numbers as words -/

theorem toNat_gatherUnsigned (word : Word) {fields : List BitField}
    (fits : totalWidth fields ≤ 64) :
    (word.gatherUnsigned fields).toNat = gather word fields := by
  rw [gatherUnsigned, BitVec.toNat_ofNat]
  apply Nat.mod_eq_of_lt
  exact Nat.lt_of_lt_of_le (gather_lt word fields) (Nat.pow_le_pow_right (by decide) fits)

theorem read_gatherUnsigned (word : Word) {fields : List BitField}
    (fits : totalWidth fields ≤ 64) :
    (⟨0, totalWidth fields⟩ : BitField).read (word.gatherUnsigned fields) = gather word fields := by
  rw [read_eq_mod, toNat_gatherUnsigned word fits, pow_zero, Nat.div_one,
    Nat.mod_eq_of_lt (gather_lt word fields)]

/-- A number that keeps its bits when scaled keeps its value. -/
theorem toNat_shiftLeft_of_lt {word : Word} {scale width : Nat} (fits : width + scale ≤ 64)
    (bound : word.toNat < 2 ^ width) : (word <<< scale).toNat = word.toNat * 2 ^ scale := by
  rw [BitVec.toNat_shiftLeft, Nat.shiftLeft_eq]
  apply Nat.mod_eq_of_lt
  calc
    word.toNat * 2 ^ scale < 2 ^ width * 2 ^ scale :=
      Nat.mul_lt_mul_of_pos_right bound (Nat.two_pow_pos scale)
    _ = 2 ^ (width + scale) := (pow_add 2 width scale).symm
    _ ≤ 2 ^ 64 := Nat.pow_le_pow_right (by decide) fits

/-- Sign extension keeps the bits below the width. -/
theorem getLsbD_extendSign (word : Word) {width bit : Nat} (below : bit < width) :
    (word.extendSign width).getLsbD bit = word.getLsbD bit := by
  rw [extendSign]
  split
  · rfl
  · split
    · simp [below]
    · rfl

theorem getLsbD_gatherSigned (word : Word) {fields : List BitField} {bit : Nat}
    (fits : totalWidth fields ≤ 64) (below : bit < totalWidth fields) :
    (word.gatherSigned fields).getLsbD bit = (gather word fields).testBit bit := by
  rw [gatherSigned, getLsbD_extendSign _ below, ← BitVec.testBit_toNat,
    toNat_gatherUnsigned word fits]

/-- A shift that pushes no bit of a number out keeps the number. -/
theorem getLsbD_eq_of_shiftLeft_eq {left right : Word} {scale bit : Nat}
    (equal : left <<< scale = right <<< scale) (kept : bit + scale < 64) :
    left.getLsbD bit = right.getLsbD bit := by
  -- The bit stands `scale` places higher in the shifted words.
  have same := congrArg (·.getLsbD (bit + scale)) equal
  have unshifted : ¬ bit + scale < scale := by omega
  simpa only [BitVec.getLsbD_shiftLeft, kept, unshifted, decide_true, decide_false, Bool.not_false,
    Bool.and_true, Bool.true_and, Nat.add_sub_cancel] using same

private theorem gather_eq_of_testBit_eq {fields : List BitField} {left right : Word}
    (equal : ∀ bit < totalWidth fields,
      (gather left fields).testBit bit = (gather right fields).testBit bit) :
    gather left fields = gather right fields := by
  apply Nat.eq_of_testBit_eq
  intro bit
  by_cases below : bit < totalWidth fields
  · exact equal bit below
  · have beyond : 2 ^ totalWidth fields ≤ 2 ^ bit :=
      Nat.pow_le_pow_right (by decide) (by omega)
    have leftBound := gather_lt left fields
    have rightBound := gather_lt right fields
    rw [Nat.testBit_lt_two_pow (by omega), Nat.testBit_lt_two_pow (by omega)]

theorem gather_eq_of_scaled_unsigned_eq {fields : List BitField} {scale : Nat} {left right : Word}
    (fits : totalWidth fields + scale ≤ 64)
    (equal : left.gatherUnsigned fields <<< scale = right.gatherUnsigned fields <<< scale) :
    gather left fields = gather right fields := by
  apply gather_eq_of_testBit_eq
  intro bit below
  have kept : bit + scale < 64 := by omega
  have same := getLsbD_eq_of_shiftLeft_eq equal kept
  rwa [← BitVec.testBit_toNat, ← BitVec.testBit_toNat, toNat_gatherUnsigned _ (by omega),
    toNat_gatherUnsigned _ (by omega)] at same

theorem gather_eq_of_scaled_signed_eq {fields : List BitField} {scale : Nat} {left right : Word}
    (fits : totalWidth fields + scale ≤ 64)
    (equal : left.gatherSigned fields <<< scale = right.gatherSigned fields <<< scale) :
    gather left fields = gather right fields := by
  apply gather_eq_of_testBit_eq
  intro bit below
  have kept : bit + scale < 64 := by omega
  have same := getLsbD_eq_of_shiftLeft_eq equal kept
  rwa [getLsbD_gatherSigned _ (by omega) below, getLsbD_gatherSigned _ (by omega) below] at same

theorem toNat_overlay (low source : Word) {width : Nat} {field : BitField}
    (fits : width + field.width ≤ 64) (strict : width < 64) :
    (low.overlay width source field).toNat =
      low.toNat % 2 ^ width + field.read source * 2 ^ width := by
  have lowBound : low.toNat % 2 ^ width < 2 ^ width := Nat.mod_lt _ (Nat.two_pow_pos _)
  have bound : low.toNat % 2 ^ width + field.read source * 2 ^ width < 2 ^ 64 :=
    Nat.lt_of_lt_of_le (add_mul_two_pow_lt lowBound (field.read_lt source))
      (Nat.pow_le_pow_right (by decide) fits)
  rw [overlay, if_neg (by omega), BitVec.toNat_ofNat, Nat.one_shiftLeft, Nat.shiftLeft_eq]
  exact Nat.mod_eq_of_lt bound

end Word

end Itanium
