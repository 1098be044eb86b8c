import Itanium.Proofs.FixedFields
import Itanium.Proofs.Overwriting

/-!
# Split immediates

An immediate in two's complement is split over up to four fields, the sign always in bit 36.
Whatever fits its width can be written there: the encoding does not change, although other formats
of the unit have opcode fields among these bits, and the instruction shows the number that was
written, all else being as before. The sign of an immediate that is compared is itself a part of an
opcode field, but both codes stand for one encoding.
-/
namespace Itanium

open BitField

/-! ### A sign within the code -/

namespace OpcodeSpace

/-- What the rule of a compare reads apart from bit 36. -/
def unsignedFields : List BitField :=
  [Word.majorOpcode, ⟨33, 3⟩, ⟨12, 1⟩]

/-- The codes of a rule with a sign of its own in bit 36. -/
def Rule.withSign (rule : Rule) (sign : Nat) : List (BitField × Nat) :=
  (⟨36, 1⟩, sign) :: unsignedFields.map fun field => (field, field.read (pattern rule.conditions))

/-- The rule and the one with the other sign select the same encoding. -/
def Rule.hasEitherSign (unit : ExecutionUnit) (rule : Rule) : Bool :=
  unsignedFields.all (isWithin rule.fields) &&
    [0, 1].all fun sign => (pages unit).all (Page.isSettled (rule.withSign sign)) &&
      lookup? unit (pattern (rule.withSign sign)) == some rule.encoding

theorem hasEitherSign_of_mem_rules (unit : ExecutionUnit) :
    ∀ rule ∈ rules unit, rule.encoding.format = .a8 → rule.hasEitherSign unit = true := by
  cases unit <;> decide +kernel

theorem lookup?_of_sign {unit : ExecutionUnit} {encoding : Encoding} {left right : Word}
    (agree : Agree unsignedFields right left) (found : lookup? unit left = some encoding)
    (compared : encoding.format = .a8) : lookup? unit right = some encoding := by
  obtain ⟨rule, member, admits, rfl⟩ := exists_rule_of_lookup? found
  have either := hasEitherSign_of_mem_rules unit rule member compared
  rw [Rule.hasEitherSign, Bool.and_eq_true, List.all_eq_true (l := [0, 1])] at either
  obtain ⟨within, settled⟩ := either
  have sign : (⟨36, 1⟩ : BitField).read right ∈ [0, 1] := by
    have bound : (⟨36, 1⟩ : BitField).read right < 2 := (⟨36, 1⟩ : BitField).read_lt right
    simp only [List.mem_cons, List.not_mem_nil, or_false]
    omega
  -- The rule has fixed all that the codes hold besides the sign.
  have met : Meets (rule.withSign ((⟨36, 1⟩ : BitField).read right)) right := by
    intro condition listed
    rcases List.mem_cons.mp listed with rfl | kept
    · rfl
    · obtain ⟨field, member, rfl⟩ := List.mem_map.mp kept
      exact (agree field member).trans (Rule.agree_pattern admits within field member)
  have selected := settled _ sign
  rw [Bool.and_eq_true, beq_iff_eq] at selected
  rw [lookup?_eq_pattern selected.1 met, selected.2]

end OpcodeSpace

namespace Place

/-- The immediates with a sign and seven bits or more. -/
def splitImmediates : List Place :=
  -- Eight bits.
  [⟨.a3, 2, [⟨13, 7⟩, ⟨36, 1⟩]⟩, ⟨.a8, 3, [⟨13, 7⟩, ⟨36, 1⟩]⟩, ⟨.i13, 2, [⟨13, 7⟩, ⟨36, 1⟩]⟩,
    ⟨.i27, 2, [⟨13, 7⟩, ⟨36, 1⟩]⟩, ⟨.m30, 2, [⟨13, 7⟩, ⟨36, 1⟩]⟩,
  -- Fourteen and twenty-two bits.
    ⟨.a4, 2, [⟨13, 7⟩, ⟨27, 6⟩, ⟨36, 1⟩]⟩,
    ⟨.a5, 2, [⟨13, 7⟩, ⟨27, 9⟩, ⟨22, 5⟩, ⟨36, 1⟩]⟩,
  -- Nine bits; a store has them where a load has its target.
    ⟨.m3, 3, [⟨13, 7⟩, ⟨27, 1⟩, ⟨36, 1⟩]⟩, ⟨.m8, 3, [⟨13, 7⟩, ⟨27, 1⟩, ⟨36, 1⟩]⟩,
    ⟨.m15, 2, [⟨13, 7⟩, ⟨27, 1⟩, ⟨36, 1⟩]⟩, ⟨.m5, 3, [⟨6, 7⟩, ⟨27, 1⟩, ⟨36, 1⟩]⟩,
    ⟨.m10, 3, [⟨6, 7⟩, ⟨27, 1⟩, ⟨36, 1⟩]⟩]

theorem isFree_of_mem_splitImmediates : ∀ place ∈ splitImmediates, place.IsFree .imm 0 := by
  decide

theorem isUnruled_of_mem_splitImmediates (unit : ExecutionUnit) :
    ∀ place ∈ splitImmediates, place.format ≠ .a8 → place.IsUnruled unit := by
  cases unit <;> decide +kernel

theorem areApart_unsignedFields : ∀ place ∈ splitImmediates, place.format = .a8 →
    areApart place.fields OpcodeSpace.unsignedFields = true := by
  decide

theorem lookup?_overwrite_of_mem_splitImmediates {unit : ExecutionUnit} {encoding : Encoding}
    {syllable : Word} {place : Place} (listed : place ∈ splitImmediates)
    (placed : place.format = encoding.format)
    (found : OpcodeSpace.lookup? unit syllable = some encoding) (value : Int) :
    OpcodeSpace.lookup? unit (place.overwrite value syllable) = some encoding := by
  by_cases compared : place.format = .a8
  · have apart := areApart_unsignedFields place listed compared
    exact OpcodeSpace.lookup?_of_sign (agree_scatter apart _ syllable) found
      (placed.symm.trans compared)
  · exact lookup?_overwrite placed (isUnruled_of_mem_splitImmediates unit place listed compared)
      found value

end Place

/-- An immediate fits its width, and any number that fits can be written in its fields: the syllable
keeps its encoding and is read as the same instruction with this number as its immediate. -/
theorem split_immediates_are_orthogonal {unit : ExecutionUnit} {encoding : Encoding}
    {syllable : Word} {long : Option Word} {instruction : Instruction} {place : Place}
    (bound : syllable.toNat < 2 ^ 41)
    (found : OpcodeSpace.lookup? unit syllable = some encoding)
    (reads : encoding.Reads syllable long instruction)
    (listed : place ∈ Place.splitImmediates) (placed : place.format = encoding.format) :
    (∃ immediate : Word, instruction.operands[place.position]? = some ⟨.imm, immediate⟩ ∧
        FitsSigned place.width immediate.toInt) ∧
      ∀ value, FitsSigned place.width value →
        (place.overwrite value syllable).toNat < 2 ^ 41 ∧
        OpcodeSpace.lookup? unit (place.overwrite value syllable) = some encoding ∧
        encoding.Reads (place.overwrite value syllable) long
          (instruction.withOperand (place.overwrite value syllable) place.position
            ⟨.imm, BitVec.ofInt 64 value⟩) := by
  have free := Place.isFree_of_mem_splitImmediates place listed
  have shown : instruction.operands[place.position]? =
      some ⟨.imm, syllable.gatherSigned place.fields⟩ := by
    obtain ⟨_, _, _, rfl⟩ := extract_eq_ok_iff.mp reads
    have read := Place.getElem?_operands placed free encoding.operation syllable (long.getD 0)
    rwa [BitVec.shiftLeft_zero] at read
  refine ⟨⟨_, shown, Word.fitsSigned_gatherSigned free.nonempty free.narrow⟩,
    fun value fits => ⟨?_, ?_, ?_⟩⟩
  · exact toNat_scatter_lt free.separate bound _
  · exact Place.lookup?_overwrite_of_mem_splitImmediates listed placed found value
  · have written := Place.reads_overwrite placed free reads fits
    rwa [pow_zero, mul_one] at written

/-- The fields of `addl` lie out of order. -/
theorem split_immediates_are_orthogonal_addl :
    OpcodeSpace.lookup? .i 0x12000000140 = some ⟨.addl, .a5⟩ ∧ FitsSigned 22 (-2) ∧
      OpcodeSpace.lookup? .i 0x13FFFCFC140 = some ⟨.addl, .a5⟩ ∧
      ∃ instruction, extract .addl .a5 0x13FFFCFC140 none = .ok instruction ∧
        instruction.operands.get 2 = ⟨.imm, 0xFFFFFFFFFFFFFFFE⟩ := by
  let place : Place := ⟨.a5, 2, [⟨13, 7⟩, ⟨27, 9⟩, ⟨22, 5⟩, ⟨36, 1⟩]⟩
  have found : OpcodeSpace.lookup? .i 0x12000000140 = some ⟨.addl, .a5⟩ := by decide
  have reads : Encoding.Reads ⟨.addl, .a5⟩ 0x12000000140 none
      (.reading .addl .a5 0x12000000140 none) := rfl
  have fits : FitsSigned 22 (-2) := by decide
  have listed : place ∈ Place.splitImmediates := by simp [place, Place.splitImmediates]
  have syllable : place.overwrite (-2) 0x12000000140 = 0x13FFFCFC140 := by decide
  have written := (split_immediates_are_orthogonal (by decide) found reads listed rfl).2 (-2) fits
  rw [syllable] at written
  exact ⟨found, fits, written.2.1, _, written.2.2, rfl⟩

end Itanium
