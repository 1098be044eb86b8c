import Itanium.Proofs.Dependence

/-!
# Writing fields

Scattering puts a number into the fields that gathering would read it from. If no bit lies in two of
the fields, gathering reads back as much of the number as they have room for, and a field apart from
all of them reads as before. What a number in two's complement is scattered as, is gathered with its
sign.
-/
namespace Itanium

namespace BitField

/-- Puts the low bits of a number into the field and keeps all other bits. -/
def write (field : BitField) (number : Nat) (word : Word) : Word :=
  word &&& ~~~BitVec.ofNat 64 field.mask |||
    BitVec.ofNat 64 (number % 2 ^ field.width) <<< field.offset

/-- Spreads a number over the fields, lowest bits first. -/
def scatter (number : Nat) (word : Word) : List BitField → Word
  | [] => word
  | field :: rest => scatter (number >>> field.width) (field.write number word) rest

/-- No bit lies in a field of each list. -/
def areApart (fields others : List BitField) : Bool :=
  maskAll fields &&& maskAll others == 0

/-- The fields lie below the width, and no bit lies in two of them. -/
def areSeparate (width : Nat) : List BitField → Bool
  | [] => true
  | field :: rest =>
    field.offset + field.width ≤ width && areApart [field] rest && areSeparate width rest

/-! ### One field -/

theorem getLsbD_write (field : BitField) (number : Nat) (word : Word) {bit : Nat}
    (bound : bit < 64) : (field.write number word).getLsbD bit =
      if field.holds bit then number.testBit (bit - field.offset) else word.getLsbD bit := by
  simp only [write, BitVec.getLsbD_or, BitVec.getLsbD_and, BitVec.getLsbD_not, BitVec.getLsbD_ofNat,
    BitVec.getLsbD_shiftLeft, testBit_mask, Nat.testBit_mod_two_pow, bound, decide_true,
    Bool.true_and]
  cases held : field.holds bit with
  -- In the field the word is cleared, so the bit is the number's.
  | true =>
    simp only [holds, Bool.and_eq_true, decide_eq_true_eq] at held
    simp only [Bool.not_true, Bool.and_false, Bool.false_or, if_true,
      show ¬bit < field.offset by omega, show bit - field.offset < field.width by omega,
      show bit - field.offset < 64 by omega, decide_true, decide_false, Bool.not_false,
      Bool.true_and]
  | false =>
    simp only [holds, Bool.and_eq_false_iff, decide_eq_false_iff_not] at held
    simp only [Bool.not_false, Bool.and_true]
    by_cases below : bit < field.offset
    · simp [below]
    · simp [below, show ¬bit - field.offset < field.width by omega]

theorem read_write {field : BitField} (fits : field.offset + field.width ≤ 64) (number : Nat)
    (word : Word) : field.read (field.write number word) = number % 2 ^ field.width := by
  apply Nat.eq_of_testBit_eq
  intro bit
  rw [testBit_read, Nat.testBit_mod_two_pow]
  by_cases inside : bit < field.width
  · have held : field.holds (field.offset + bit) = true := by simp [holds, inside]
    rw [getLsbD_write _ _ _ (by omega), held, if_pos rfl, Nat.add_sub_cancel_left]
  · simp only [inside, decide_false, Bool.false_and]

theorem read_eq_of_getLsbD_eq {field : BitField} {left right : Word}
    (equal : ∀ bit < 64, field.holds bit = true → left.getLsbD bit = right.getLsbD bit) :
    field.read left = field.read right := by
  apply Nat.eq_of_testBit_eq
  intro bit
  rw [testBit_read, testBit_read]
  by_cases inside : bit < field.width
  · by_cases bound : field.offset + bit < 64
    · rw [equal _ bound (by simp [holds, inside])]
    · rw [BitVec.getLsbD_of_ge _ _ (by omega), BitVec.getLsbD_of_ge _ _ (by omega)]
  · simp only [inside, decide_false, Bool.false_and]

/-! ### Bits outside the fields -/

theorem testBit_maskAll_of_mem {fields : List BitField} {field : BitField}
    (member : field ∈ fields) {bit : Nat} (held : field.holds bit = true) :
    (maskAll fields).testBit bit = true := by
  induction fields with
  | nil => cases member
  | cons head rest ih =>
    rw [maskAll, List.foldr_cons, Nat.testBit_or, testBit_mask, Bool.or_eq_true]
    rcases List.mem_cons.mp member with rfl | later
    · exact .inl held
    · exact .inr (ih later)

theorem testBit_maskAll_of_areSeparate {fields : List BitField} {width bit : Nat}
    (separate : areSeparate width fields = true) (above : width ≤ bit) :
    (maskAll fields).testBit bit = false := by
  induction fields with
  | nil => exact Nat.zero_testBit bit
  | cons field rest ih =>
    simp only [areSeparate, Bool.and_eq_true, decide_eq_true_eq] at separate
    obtain ⟨⟨fits, _⟩, later⟩ := separate
    have outside : ¬bit < field.offset + field.width := by omega
    rw [maskAll, List.foldr_cons, Nat.testBit_or, testBit_mask, holds, decide_eq_false outside,
      Bool.and_false, Bool.false_or]
    exact ih later

theorem getLsbD_scatter {fields : List BitField} (number : Nat) (word : Word) {bit : Nat}
    (bound : bit < 64) (outside : (maskAll fields).testBit bit = false) :
    (scatter number word fields).getLsbD bit = word.getLsbD bit := by
  induction fields generalizing number word with
  | nil => rfl
  | cons field rest ih =>
    rw [maskAll, List.foldr_cons, Nat.testBit_or, Bool.or_eq_false_iff, testBit_mask] at outside
    rw [scatter, ih _ _ outside.2, getLsbD_write _ _ _ bound, outside.1]
    rfl

/-- Fields apart from those that are written read as before. -/
theorem agree_scatter {fields others : List BitField} (apart : areApart fields others = true)
    (number : Nat) (word : Word) : Agree others (scatter number word fields) word := by
  intro other member
  apply read_eq_of_getLsbD_eq
  intro bit bound held
  apply getLsbD_scatter _ _ bound
  have shared := congrArg (·.testBit bit) (eq_of_beq apart)
  simpa only [Nat.testBit_and, testBit_maskAll_of_mem member held, Bool.and_true,
    Nat.zero_testBit] using shared

theorem toNat_scatter_lt {fields : List BitField} {width : Nat}
    (separate : areSeparate width fields = true) {word : Word} (bound : word.toNat < 2 ^ width)
    (number : Nat) : (scatter number word fields).toNat < 2 ^ width := by
  apply Nat.lt_pow_two_of_testBit
  intro bit above
  rw [BitVec.testBit_toNat]
  by_cases inside : bit < 64
  · have beyond : 2 ^ width ≤ 2 ^ bit := Nat.pow_le_pow_right (by decide) above
    rw [getLsbD_scatter _ _ inside (testBit_maskAll_of_areSeparate separate above),
      ← BitVec.testBit_toNat, Nat.testBit_lt_two_pow (by omega)]
  · exact BitVec.getLsbD_of_ge _ _ (by omega)

/-! ### Reading back -/

theorem gather_append (word : Word) (fields more : List BitField) :
    gather word (fields ++ more) =
      gather word fields + gather word more * 2 ^ totalWidth fields := by
  induction fields with
  | nil => simp [gather, totalWidth]
  | cons field rest ih =>
    rw [List.cons_append, gather, ih, gather, totalWidth, Nat.shiftLeft_eq, Nat.shiftLeft_eq,
      Nat.add_mul, Nat.mul_assoc, ← pow_add, Nat.add_comm (totalWidth rest), Nat.add_assoc]

theorem totalWidth_append (fields more : List BitField) :
    totalWidth (fields ++ more) = totalWidth fields + totalWidth more := by
  induction fields with
  | nil => exact (Nat.zero_add _).symm
  | cons field rest ih => rw [List.cons_append, totalWidth, ih, totalWidth, Nat.add_assoc]

theorem gather_scatter {fields : List BitField} {width : Nat} (narrow : width ≤ 64)
    (separate : areSeparate width fields = true) (number : Nat) (word : Word) :
    gather (scatter number word fields) fields = number % 2 ^ totalWidth fields := by
  induction fields generalizing number word with
  | nil => rw [gather, totalWidth, pow_zero, Nat.mod_one]
  | cons field rest ih =>
    simp only [areSeparate, Bool.and_eq_true, decide_eq_true_eq] at separate
    obtain ⟨⟨fits, apart⟩, later⟩ := separate
    -- What is scattered over the rest leaves the first field as it was written.
    have behind : areApart rest [field] = true := by rwa [areApart, Nat.and_comm]
    have first :=
      (agree_scatter behind (number >>> field.width) (field.write number word)).singleton
    rw [gather, scatter, first, read_write (by omega), ih later, totalWidth, pow_add, Nat.mod_mul,
      Nat.shiftLeft_eq, Nat.shiftRight_eq_div_pow, Nat.mul_comm (2 ^ field.width)]

/-- Fewer fields than a number was scattered over give back its low bits. -/
theorem gather_scatter_append {fields more : List BitField} {width : Nat} (narrow : width ≤ 64)
    (separate : areSeparate width (fields ++ more) = true) (number : Nat) (word : Word) :
    gather (scatter number word (fields ++ more)) fields = number % 2 ^ totalWidth fields := by
  have whole := gather_scatter narrow separate number word
  have low := gather_lt (scatter number word (fields ++ more)) fields
  rw [gather_append, totalWidth_append, pow_add] at whole
  calc gather (scatter number word (fields ++ more)) fields
    _ = (gather (scatter number word (fields ++ more)) fields +
          gather (scatter number word (fields ++ more)) more * 2 ^ totalWidth fields) %
            2 ^ totalWidth fields := by
      rw [Nat.add_mul_mod_self_right, Nat.mod_eq_of_lt low]
    _ = number % 2 ^ totalWidth fields := by
      rw [whole, Nat.mod_mul_right_mod]

end BitField

/-! ### Two's complement -/

/-- The number can be written in two's complement of the width. -/
def FitsSigned (width : Nat) (value : Int) : Prop :=
  -2 ^ (width - 1) ≤ value ∧ value < 2 ^ (width - 1)

instance (width : Nat) (value : Int) : Decidable (FitsSigned width value) :=
  inferInstanceAs (Decidable (_ ∧ _))

theorem FitsSigned.mono {width wider : Nat} {value : Int} (fits : FitsSigned width value)
    (le : width ≤ wider) : FitsSigned wider value := by
  obtain ⟨lower, upper⟩ := fits
  have limits : (2 : Int) ^ (width - 1) ≤ 2 ^ (wider - 1) :=
    pow_le_pow_right₀ (by decide) (by omega)
  exact ⟨by omega, by omega⟩

namespace Word

open BitField

variable {word : Word} {fields : List BitField} (nonempty : 0 < totalWidth fields)
  (narrow : totalWidth fields ≤ 64)

include nonempty narrow

theorem gatherSigned_eq_signExtend : word.gatherSigned fields =
    (BitVec.ofNat (totalWidth fields) (gather word fields)).signExtend 64 := by
  have sign : totalWidth fields - 1 < totalWidth fields := by omega
  have gathered (bit : Nat) : (word.gatherUnsigned fields).getLsbD bit =
      (gather word fields).testBit bit := by
    rw [← BitVec.testBit_toNat, toNat_gatherUnsigned word narrow]
  apply BitVec.eq_of_getLsbD_eq
  intro bit bound
  rw [BitVec.getLsbD_signExtend, BitVec.getLsbD_ofNat, BitVec.msb_eq_getLsbD_last,
    BitVec.getLsbD_ofNat, decide_eq_true bound, Bool.true_and, decide_eq_true sign, Bool.true_and]
  by_cases below : bit < totalWidth fields
  · rw [getLsbD_gatherSigned word narrow below, if_pos below, decide_eq_true below, Bool.true_and]
  -- From the width up every bit is the sign: set by the mask, or clear as nothing was gathered.
  · have beyond : 2 ^ totalWidth fields ≤ 2 ^ bit := Nat.pow_le_pow_right (by decide) (by omega)
    have clear : (gather word fields).testBit bit = false :=
      Nat.testBit_lt_two_pow (Nat.lt_of_lt_of_le (gather_lt word fields) beyond)
    rw [if_neg below, gatherSigned, extendSign, if_neg (by omega), gathered]
    split
    next negative =>
      have ones : (BitVec.allOnes 64).getLsbD (bit - totalWidth fields) = true := by
        rw [BitVec.getLsbD_allOnes, decide_eq_true (by omega)]
      rw [BitVec.getLsbD_or, BitVec.getLsbD_shiftLeft, decide_eq_true bound, decide_eq_false below,
        ones, negative, Bool.or_eq_true]
      exact .inr rfl
    next positive => rw [gathered, clear, Bool.eq_false_iff.mpr positive]

theorem fitsSigned_gatherSigned :
    FitsSigned (totalWidth fields) (word.gatherSigned fields).toInt := by
  rw [gatherSigned_eq_signExtend nonempty narrow, BitVec.toInt_signExtend_of_le narrow]
  exact ⟨BitVec.le_toInt _, BitVec.toInt_lt⟩

theorem gatherSigned_of_gather {value : Int} (fits : FitsSigned (totalWidth fields) value)
    (gathered : gather word fields = (BitVec.ofInt (totalWidth fields) value).toNat) :
    word.gatherSigned fields = BitVec.ofInt 64 value := by
  -- The number fits the narrow word and the wide one, so both stand for it.
  have short := BitVec.toInt_ofInt_eq_self nonempty fits.1 fits.2
  obtain ⟨lower, upper⟩ := fits.mono narrow
  have wide := BitVec.toInt_ofInt_eq_self (by decide : 0 < 64) lower upper
  apply BitVec.eq_of_toInt_eq
  rw [gatherSigned_eq_signExtend nonempty narrow, gathered, BitVec.ofNat_toNat,
    BitVec.setWidth_eq, BitVec.toInt_signExtend_of_le narrow, short, wide]

end Word

end Itanium
