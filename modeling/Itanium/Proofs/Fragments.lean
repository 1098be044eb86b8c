import Itanium.Proofs.Scatter

/-!
# Numbers in fragments

A number is spread over fragments: fields that lie in the word and of which no two share a bit. Each
bit of the number then has a place of its own, so there is one way to scatter it, gathering gives it
back, and no bit outside the fragments matters. Gathered from two lists in a row, the number is what
the first gives, with what the second gives above it.
-/
namespace Itanium

namespace BitField

/-- Fields that hold a number together. -/
structure AreFragments (fields : List BitField) : Prop where
  nonempty : 0 < totalWidth fields
  fits : ∀ field ∈ fields, field.offset + field.width ≤ 64
  disjoint : fields.Pairwise fun left right =>
    ∀ bit, left.holds bit = true → right.holds bit = false

/-- The word with the number in the fields, its lowest bits in the first of them, and with all other
bits as they were. -/
structure IsScattered (number : Nat) (word : Word) (fields : List BitField) (written : Word) :
    Prop where
  inside : ∀ before field after, fields = before ++ field :: after → ∀ bit < field.width,
    written.getLsbD (field.offset + bit) = number.testBit (totalWidth before + bit)
  outside : ∀ bit, (∀ field ∈ fields, field.holds bit = false) →
    written.getLsbD bit = word.getLsbD bit

/-- The words have the same bits in the fields. -/
def AgreeInside (fields : List BitField) (left right : Word) : Prop :=
  ∀ field ∈ fields, ∀ bit, field.holds bit = true → left.getLsbD bit = right.getLsbD bit

theorem agreeInside_iff {fields : List BitField} {left right : Word} :
    AgreeInside fields left right ↔ Agree fields left right := by
  apply forall₂_congr
  intro field _
  constructor
  · exact fun same => read_eq_of_getLsbD_eq fun bit _ held => same bit held
  · exact fun same bit held => getLsbD_eq_of_read_eq same held

/-! ### Bits of gathered numbers -/

theorem gather_append_eq_or (word : Word) (fields more : List BitField) :
    gather word (fields ++ more) =
      gather word fields ||| gather word more <<< totalWidth fields := by
  rw [gather_append, ← Nat.shiftLeft_eq, Nat.add_comm,
    Nat.shiftLeft_add_eq_or_of_lt (gather_lt word fields), Nat.or_comm]

/-- Each bit of a field is a bit of the gathered number. -/
theorem testBit_gather (word : Word) (before : List BitField) (field : BitField)
    (after : List BitField) {bit : Nat} (inside : bit < field.width) :
    (gather word (before ++ field :: after)).testBit (totalWidth before + bit) =
      word.getLsbD (field.offset + bit) := by
  have beyond : 2 ^ totalWidth before ≤ 2 ^ (totalWidth before + bit) :=
    Nat.pow_le_pow_right (by decide) (by omega)
  -- What is gathered before the field ends below its bits, and what follows begins above them.
  have low : (gather word before).testBit (totalWidth before + bit) = false :=
    Nat.testBit_lt_two_pow (Nat.lt_of_lt_of_le (gather_lt word before) beyond)
  have high : ¬totalWidth [field] ≤ bit := by
    rw [totalWidth, totalWidth]
    omega
  have own : (gather word (field :: after)).testBit bit = word.getLsbD (field.offset + bit) := by
    rw [← List.singleton_append, gather_append_eq_or, Nat.testBit_or, Nat.testBit_shiftLeft,
      decide_eq_false high, Bool.false_and, Bool.or_false, gather_singleton, testBit_read,
      decide_eq_true inside, Bool.true_and]
  rw [gather_append_eq_or, Nat.testBit_or, low, Bool.false_or, Nat.testBit_shiftLeft,
    decide_eq_true (by omega), Bool.true_and, Nat.add_sub_cancel_left, own]

/-! ### Fields that share no bit -/

theorem areApart_of_forall {fields others : List BitField}
    (apart : ∀ field ∈ fields, ∀ other ∈ others, ∀ bit,
      field.holds bit = true → other.holds bit = false) : areApart fields others = true := by
  rw [areApart, beq_iff_eq]
  apply Nat.eq_of_testBit_eq
  intro bit
  rw [Nat.testBit_and, Nat.zero_testBit, Bool.and_eq_false_imp]
  intro set
  obtain ⟨field, member, held⟩ := exists_of_testBit_maskAll set
  by_contra also
  obtain ⟨other, otherMember, otherHeld⟩ :=
    exists_of_testBit_maskAll (Bool.eq_true_of_not_eq_false also)
  rw [apart field member other otherMember bit held] at otherHeld
  cases otherHeld

/-- Fields share no bit if one ends before the other begins. -/
theorem holds_eq_false_of_le {left right : BitField} {bit : Nat}
    (apart : left.offset + left.width ≤ right.offset ∨ right.offset + right.width ≤ left.offset)
    (held : left.holds bit = true) : right.holds bit = false := by
  simp only [holds, Bool.and_eq_true, decide_eq_true_eq] at held
  simp only [holds, Bool.and_eq_false_iff, decide_eq_false_iff_not]
  omega

theorem areSeparate_of_pairwise {fields : List BitField} {width : Nat}
    (fits : ∀ field ∈ fields, field.offset + field.width ≤ width)
    (disjoint : fields.Pairwise fun left right =>
      ∀ bit, left.holds bit = true → right.holds bit = false) :
    areSeparate width fields = true := by
  induction disjoint with
  | nil => rfl
  | cons first _ ih =>
    obtain ⟨head, later⟩ := List.forall_mem_cons.mp fits
    have apart := areApart_of_forall (List.forall_mem_singleton.mpr first)
    rw [areSeparate, decide_eq_true head, apart, ih later]
    rfl

/-- Fields that share no bit have no more bits together than the word. Otherwise two numbers would
be scattered alike, although each is gathered again. -/
theorem totalWidth_le_of_areSeparate {fields : List BitField} {width : Nat} (narrow : width ≤ 64)
    (separate : areSeparate width fields = true) : totalWidth fields ≤ width := by
  have zero : (0 : Word).toNat < 2 ^ width := Nat.two_pow_pos width
  let written (number : Fin (2 ^ totalWidth fields)) : Fin (2 ^ width) :=
    ⟨(scatter number 0 fields).toNat, toNat_scatter_lt separate zero number⟩
  have injective : Function.Injective written := by
    intro left right equal
    have same : scatter left 0 fields = scatter right 0 fields :=
      BitVec.eq_of_toNat_eq (Fin.mk.inj equal)
    have gathered := gather_scatter narrow separate left.val 0
    rw [same, gather_scatter narrow separate, Nat.mod_eq_of_lt left.isLt,
      Nat.mod_eq_of_lt right.isLt] at gathered
    exact Fin.ext gathered.symm
  have few := Fintype.card_le_of_injective written injective
  rw [Fintype.card_fin, Fintype.card_fin] at few
  exact (Nat.pow_le_pow_iff_right (by decide)).mp few

/-! ### Scattering -/

section Scattered

variable {fields : List BitField} {number : Nat} {word written : Word}

theorem AreFragments.areSeparate (fragments : AreFragments fields) :
    BitField.areSeparate 64 fields = true :=
  areSeparate_of_pairwise fragments.fits fragments.disjoint

theorem AreFragments.narrow (fragments : AreFragments fields) : totalWidth fields ≤ 64 :=
  totalWidth_le_of_areSeparate (by decide) fragments.areSeparate

theorem AreFragments.isScattered_scatter (fragments : AreFragments fields) (number : Nat)
    (word : Word) : IsScattered number word fields (scatter number word fields) where
  -- A bit in a field is gathered again, as the bit of the number that was scattered.
  inside := by
    rintro before field after rfl bit inside
    have room : totalWidth before + bit < totalWidth (before ++ field :: after) := by
      rw [totalWidth_append, totalWidth]
      omega
    rw [← testBit_gather _ before field after inside,
      gather_scatter (by decide) fragments.areSeparate, Nat.testBit_mod_two_pow,
      decide_eq_true room, Bool.true_and]
  outside := by
    intro bit free
    by_cases bound : bit < 64
    · apply getLsbD_scatter _ _ bound
      by_contra set
      obtain ⟨field, member, held⟩ :=
        exists_of_testBit_maskAll (Bool.eq_true_of_not_eq_false set)
      rw [free field member] at held
      cases held
    · rw [BitVec.getLsbD_of_ge _ _ (by omega), BitVec.getLsbD_of_ge _ _ (by omega)]

theorem IsScattered.unique {other : Word} (scattered : IsScattered number word fields written)
    (also : IsScattered number word fields other) : written = other := by
  apply BitVec.eq_of_getLsbD_eq
  intro bit _
  by_cases free : ∀ field ∈ fields, field.holds bit = false
  · rw [scattered.outside bit free, also.outside bit free]
  -- A bit in some field is the bit of the number that has its place there.
  · push Not at free
    obtain ⟨field, member, held⟩ := free
    obtain ⟨before, after, parts⟩ := List.append_of_mem member
    simp only [holds, Bool.not_eq_false, Bool.and_eq_true, decide_eq_true_eq] at held
    have place : bit = field.offset + (bit - field.offset) := by omega
    have inside : bit - field.offset < field.width := by omega
    rw [place, scattered.inside before field after parts _ inside,
      also.inside before field after parts _ inside]

theorem AreFragments.isScattered_iff (fragments : AreFragments fields) :
    IsScattered number word fields written ↔ written = scatter number word fields := by
  constructor
  · exact fun scattered => scattered.unique (fragments.isScattered_scatter number word)
  · rintro rfl
    exact fragments.isScattered_scatter number word

end Scattered

end BitField

namespace Word

open BitField

/-! ### Gathering -/

section Gathered

variable {fields : List BitField} (fragments : AreFragments fields)

include fragments

theorem toNat_gatherUnsigned_scatter {number : Nat} (bound : number < 2 ^ totalWidth fields)
    (word : Word) : ((scatter number word fields).gatherUnsigned fields).toNat = number := by
  rw [toNat_gatherUnsigned _ fragments.narrow, gather_scatter (by decide) fragments.areSeparate,
    Nat.mod_eq_of_lt bound]

theorem gatherSigned_scatter {number : Nat} (bound : number < 2 ^ totalWidth fields)
    (word : Word) : (scatter number word fields).gatherSigned fields =
      BitVec.ofInt 64 (BitVec.ofNat (totalWidth fields) number).toInt := by
  rw [gatherSigned_eq_signExtend fragments.nonempty fragments.narrow,
    gather_scatter (by decide) fragments.areSeparate, Nat.mod_eq_of_lt bound, BitVec.signExtend]

theorem gatherUnsigned_eq_iff {left right : Word} :
    left.gatherUnsigned fields = right.gatherUnsigned fields ↔ AgreeInside fields left right := by
  rw [agreeInside_iff]
  constructor
  · intro equal
    have numbers := congrArg BitVec.toNat equal
    rw [toNat_gatherUnsigned _ fragments.narrow, toNat_gatherUnsigned _ fragments.narrow] at numbers
    exact read_eq_of_gather_eq numbers
  · intro agree
    rw [gatherUnsigned, gatherUnsigned, gather_congr agree]

/-- The sign is one of the bits that are gathered. -/
theorem gatherSigned_eq_iff {left right : Word} :
    left.gatherSigned fields = right.gatherSigned fields ↔ AgreeInside fields left right := by
  rw [agreeInside_iff]
  constructor
  · intro equal
    have unscaled : left.gatherSigned fields <<< 0 = right.gatherSigned fields <<< 0 := by
      rw [equal]
    exact read_eq_of_gather_eq (gather_eq_of_scaled_signed_eq fragments.narrow unscaled)
  · intro agree
    rw [gatherSigned, gatherSigned, gatherUnsigned, gatherUnsigned, gather_congr agree]

end Gathered

theorem gatherUnsigned_append (word : Word) (fields more : List BitField) :
    word.gatherUnsigned (fields ++ more) =
      word.gatherUnsigned fields ||| word.gatherUnsigned more <<< totalWidth fields := by
  have shifted (number : Nat) : BitVec.ofNat 64 (number <<< totalWidth fields) =
      BitVec.ofNat 64 number <<< totalWidth fields := by
    apply BitVec.eq_of_toNat_eq
    rw [BitVec.toNat_shiftLeft, BitVec.toNat_ofNat, BitVec.toNat_ofNat, Nat.shiftLeft_eq,
      Nat.shiftLeft_eq, Nat.mod_mul_mod]
  rw [gatherUnsigned, gather_append_eq_or, BitVec.ofNat_or, shifted, gatherUnsigned, gatherUnsigned]

/-- Whatever number the fragments have room for, there is one way to scatter it, and it is gathered
again: as it is, or with its highest bit as its sign. What is gathered tells the bits in the
fragments and depends on no others. A longer list gives what its parts give, one above the other,
and a single field gives its number, extended by its sign or not. -/
theorem gathering_inverts_scattering (word : Word) :
    (∀ fields, AreFragments fields →
      (∀ number < 2 ^ totalWidth fields,
        (∀ written, IsScattered number word fields written ↔
          written = scatter number word fields) ∧
        ((scatter number word fields).gatherUnsigned fields).toNat = number ∧
        (scatter number word fields).gatherSigned fields =
          BitVec.ofInt 64 (BitVec.ofNat (totalWidth fields) number).toInt) ∧
      ∀ other : Word,
        (word.gatherUnsigned fields = other.gatherUnsigned fields ↔
          AgreeInside fields word other) ∧
        (word.gatherSigned fields = other.gatherSigned fields ↔
          AgreeInside fields word other)) ∧
    (∀ fields more, word.gatherUnsigned (fields ++ more) =
      word.gatherUnsigned fields ||| word.gatherUnsigned more <<< totalWidth fields) ∧
    ∀ field : BitField, word.gatherUnsigned [field] = BitVec.ofNat 64 (field.read word) ∧
      word.gatherSigned [field] =
        extendSign (BitVec.ofNat 64 (field.read word)) field.width := by
  refine ⟨fun fields fragments => ⟨fun number bound => ⟨fun written => ?_, ?_, ?_⟩,
    fun other => ⟨?_, ?_⟩⟩, word.gatherUnsigned_append, fun field => ⟨?_, ?_⟩⟩
  · exact fragments.isScattered_iff
  · exact toNat_gatherUnsigned_scatter fragments bound word
  · exact gatherSigned_scatter fragments bound word
  · exact gatherUnsigned_eq_iff fragments
  · exact gatherSigned_eq_iff fragments
  · rw [gatherUnsigned, gather_singleton]
  · rw [gatherSigned, gatherUnsigned, gather_singleton]
    rfl

/-- The fields of the immediate of `addl` lie out of order, with the sign in the last. -/
theorem gathering_inverts_scattering_addl :
    ∃ fields : List BitField, fields = [⟨13, 7⟩, ⟨27, 9⟩, ⟨22, 5⟩, ⟨36, 1⟩] ∧
      AreFragments fields ∧ totalWidth fields = 22 ∧
      IsScattered 0x3FFFFE 0x12000000140 fields 0x13FFFCFC140 ∧
      gatherUnsigned 0x13FFFCFC140 fields = 0x3FFFFE ∧
      gatherSigned 0x13FFFCFC140 fields = BitVec.ofInt 64 (-2) := by
  let fields : List BitField := [⟨13, 7⟩, ⟨27, 9⟩, ⟨22, 5⟩, ⟨36, 1⟩]
  have ranges : fields.Pairwise fun left right => left.offset + left.width ≤ right.offset ∨
      right.offset + right.width ≤ left.offset := by decide
  have fragments : AreFragments fields :=
    ⟨by decide, by decide, ranges.imp fun apart _ => holds_eq_false_of_le apart⟩
  have written : (0x13FFFCFC140 : Word) = scatter 0x3FFFFE 0x12000000140 fields := by decide
  obtain ⟨inverts, -, -⟩ := gathering_inverts_scattering 0x12000000140
  obtain ⟨scattered_iff, unsigned, signed⟩ := (inverts fields fragments).1 0x3FFFFE (by decide)
  rw [← written] at unsigned signed
  exact ⟨fields, rfl, fragments, rfl, (scattered_iff _).mpr written,
    BitVec.eq_of_toNat_eq unsigned, signed⟩

end Word

end Itanium
