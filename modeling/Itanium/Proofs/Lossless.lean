import Itanium.Bundle
import Itanium.Proofs.Extraction
import Itanium.Proofs.FixedFields

/-!
# Formats that lose nothing

A record determines a field of the syllable if the field is a condition of the rule that was found,
selects a completer, is reserved with one code, or lies under an operand that is always present. In
the lossless formats these fields hold all bits. The mnemonic and the completers determine the rule,
up to the sign of an immediate that is compared, which the operand shows; so the record determines
the syllable.
-/
namespace Itanium

open Layout

namespace Format

/-- The formats that ignore no bit. -/
def isLossless : Format → Bool
  | .a3 | .a4 | .a5 | .a6 | .a7 | .a8 | .a9 | .a10 | .f1 | .f2 | .f4 | .f6 | .i13 | .i15 | .i16
  | .m2 | .m3 | .m5 | .m7 | .m8 | .m10 | .m11 | .m12 | .m16 | .x2 => true
  | _ => false

/-- The sources whose operands determine the fields below them. -/
def faithfulSources (format : Format) (operation : Operation) : List Source :=
  (format.operandSources operation).filter fun source =>
    source.presence.isNone && source.quantity.isFaithful

def faithfulHints (format : Format) : List Hint :=
  format.hints.filter Hint.isFaithful

/-- The reserved fields with one code only. -/
def constants (format : Format) : List Reserved :=
  format.reserved.filter (·.codes.length == 1)

/-- The fields that the record of an instruction determines. -/
def recordedFields (format : Format) (operation : Operation) : List BitField :=
  (format.faithfulSources operation).flatMap (·.quantity.fields) ++
    format.faithfulHints.flatMap Hint.fields ++ format.constants.map Reserved.field

/-- The fields of the long half that it determines. -/
def recordedLongFields (format : Format) (operation : Operation) : List BitField :=
  (format.faithfulSources operation).flatMap (·.quantity.longFields)

end Format

/-! ### The parts of a record -/

theorem Layout.Reserved.read_eq_of_admits {reserved : Reserved} {left right : Word}
    (constant : (reserved.codes.length == 1) = true) (leftAdmits : reserved.admits left = true)
    (rightAdmits : reserved.admits right = true) :
    reserved.field.read left = reserved.field.read right := by
  obtain ⟨code, only⟩ := List.length_eq_one_iff.mp (eq_of_beq constant)
  simp only [admits, only, List.contains_iff_mem, List.mem_singleton] at leftAdmits rightAdmits
  rw [leftAdmits, rightAdmits]

theorem Layout.Source.value_eq_of_operand_eq {source : Source} {operation operation' : Operation}
    {left right leftLong rightLong : Word} (always : source.presence.isNone = true)
    (equal : source.operand operation left leftLong = source.operand operation' right rightLong) :
    source.quantity.value left leftLong = source.quantity.value right rightLong := by
  rw [operand_of_isPresent (isPresent_of_always always),
    operand_of_isPresent (isPresent_of_always always)] at equal
  exact congrArg Operand.value equal

namespace Format

variable {format : Format} {operation : Operation} {left right leftLong rightLong : Word}

theorem operand_eq_of_operands_eq
    (equal : format.operands operation left leftLong = format.operands operation right rightLong) :
    ∀ source ∈ format.operandSources operation,
      source.operand operation left leftLong = source.operand operation right rightLong := by
  intro source member
  obtain ⟨index, inside, rfl⟩ := List.getElem_of_mem member
  have room : index < 7 := Nat.lt_of_lt_of_le inside (format.length_operandSources_le operation)
  have listed := List.getElem?_eq_getElem inside
  rw [← operands_of_operandSources listed left leftLong room,
    ← operands_of_operandSources listed right rightLong room, equal]

/-- The sign of an immediate that is compared shows in the record, whatever the operation. -/
theorem sign_eq_of_operands_eq {operation' : Operation}
    (equal : Format.a8.operands operation left leftLong =
      Format.a8.operands operation' right rightLong) :
    (⟨36, 1⟩ : BitField).read left = (⟨36, 1⟩ : BitField).read right := by
  have listed (operation : Operation) : (Format.a8.operandSources operation)[3]? =
      some (.signed immediate8) := rfl
  have shown : (Source.signed immediate8).operand operation left leftLong =
      (Source.signed immediate8).operand operation' right rightLong := by
    rw [← operands_of_operandSources (listed operation) left leftLong (by decide),
      ← operands_of_operandSources (listed operation') right rightLong (by decide), equal]
  have faithful : (Source.signed immediate8).quantity.isFaithful = true := by decide
  exact (Quantity.read_eq_of_value_eq faithful (Source.value_eq_of_operand_eq rfl shown)).1
    ⟨36, 1⟩ (by decide)

/-- A hint's completer stands at the same place in both lists. -/
theorem completer_eq_of_completers_eq {operation' : Operation}
    (equal : format.completers operation left = format.completers operation' right) :
    operation.assembly.completers = operation'.assembly.completers ∧
      ∀ hint ∈ format.hints, hint.completer left = hint.completer right := by
  obtain ⟨chosen, hinted⟩ := List.append_inj' equal (by simp)
  exact ⟨chosen, List.map_inj_left.mp hinted⟩

/-- Equal records agree on every field that they determine. -/
theorem read_eq_of_recorded
    (operands : format.operands operation left leftLong =
      format.operands operation right rightLong)
    (completers : format.completers operation left = format.completers operation right)
    (leftAdmits : format.reserved.all (·.admits left) = true)
    (rightAdmits : format.reserved.all (·.admits right) = true) :
    (∀ field ∈ format.recordedFields operation, field.read left = field.read right) ∧
      ∀ field ∈ format.recordedLongFields operation,
        field.read leftLong = field.read rightLong := by
  -- An operand from a faithful source determines the fields of both syllables.
  have sourced (source : Source) (member : source ∈ format.faithfulSources operation) :
      (∀ field ∈ source.quantity.fields, field.read left = field.read right) ∧
        ∀ field ∈ source.quantity.longFields, field.read leftLong = field.read rightLong := by
    obtain ⟨listed, faithful⟩ := List.mem_filter.mp member
    obtain ⟨always, faithful⟩ := Bool.and_eq_true_iff.mp faithful
    exact Quantity.read_eq_of_value_eq faithful
      (Source.value_eq_of_operand_eq always (operand_eq_of_operands_eq operands source listed))
  constructor
  · intro field member
    rcases List.mem_append.mp member with member | constant
    · rcases List.mem_append.mp member with inSource | inHint
      · obtain ⟨source, member, inFields⟩ := List.mem_flatMap.mp inSource
        exact (sourced source member).1 field inFields
      · obtain ⟨hint, member, inFields⟩ := List.mem_flatMap.mp inHint
        obtain ⟨listed, faithful⟩ := List.mem_filter.mp member
        have same := (completer_eq_of_completers_eq completers).2 hint listed
        exact Hint.read_eq_of_completer_eq faithful same field inFields
    · obtain ⟨reserved, selected, rfl⟩ := List.mem_map.mp constant
      obtain ⟨listed, single⟩ := List.mem_filter.mp selected
      exact Reserved.read_eq_of_admits single (List.all_eq_true.mp leftAdmits reserved listed)
        (List.all_eq_true.mp rightAdmits reserved listed)
  · intro field member
    obtain ⟨source, member, inFields⟩ := List.mem_flatMap.mp member
    exact (sourced source member).2 field inFields

end Format

/-! ### The rules of lossless formats -/

namespace OpcodeSpace.Rule

/-- The sign of the immediate, where it is a part of the code. -/
def sign (rule : Rule) : Nat :=
  if rule.encoding.format = .a8 then (⟨36, 1⟩ : BitField).read (pattern rule.conditions) else 0

/-- A number for what a record shows of the rule. Its size is bounded so that it can be the place of
a bit. -/
def number (format : Format) (mnemonic : Mnemonic) (completers : List Completer) (sign : Nat) :
    Nat :=
  let chosen := completers.foldr (fun completer rest =>
    completer.form.ctorIdx + 128 * (completer.role.ctorIdx + 64 * rest)) (1 + sign)
  (format.ctorIdx + 128 * (mnemonic.ctorIdx + 512 * chosen)) % 65521

def shown (rule : Rule) : Nat :=
  number rule.encoding.format rule.encoding.operation.mnemonic
    rule.encoding.operation.assembly.completers rule.sign

/-- The fields that the rule and the record determine hold all bits. -/
def isLossless (rule : Rule) : Bool :=
  BitField.covers
    (rule.fields ++ rule.encoding.format.recordedFields rule.encoding.operation) 41

end OpcodeSpace.Rule

namespace OpcodeSpace

def losslessRules (unit : ExecutionUnit) : List Rule :=
  (rules unit).filter (·.encoding.format.isLossless)

/-- The rules differ in what a record shows of them. Rule and record together hold all bits, and a
compare with an immediate has a rule that reads its sign. -/
theorem losslessRules_determine (unit : ExecutionUnit) :
    distinctFrom 0 ((losslessRules unit).map Rule.shown) = true ∧
      ∀ rule ∈ losslessRules unit, rule.isLossless = true ∧
        (rule.encoding.format = .a8 → [⟨36, 1⟩].all (BitField.isWithin rule.fields) = true) := by
  cases unit <;> decide +kernel

theorem read_sign {unit : ExecutionUnit} {rule : Rule} (listed : rule ∈ losslessRules unit)
    (compare : rule.encoding.format = .a8) {syllable : Word}
    (admits : rule.admits syllable = true) : (⟨36, 1⟩ : BitField).read syllable = rule.sign := by
  have within := ((losslessRules_determine unit).2 rule listed).2 compare
  rw [Rule.sign, if_pos compare]
  exact Rule.agree_pattern admits within _ (by simp)

/-- A syllable with a lossless format was found by a lossless rule. -/
theorem exists_losslessRule {unit : ExecutionUnit} {syllable : Word} {encoding : Encoding}
    (lossless : encoding.format.isLossless = true)
    (found : lookup? unit syllable = some encoding) :
    ∃ rule ∈ losslessRules unit, rule.admits syllable = true ∧ rule.encoding = encoding := by
  obtain ⟨rule, member, met, rfl⟩ := exists_rule_of_lookup? found
  exact ⟨rule, List.mem_filter.mpr ⟨member, lossless⟩, met, rfl⟩

end OpcodeSpace

/-! ### Two syllables with one record -/

theorem Format.covers_longHalf (operation : Operation) :
    BitField.covers (Format.x2.recordedLongFields operation) 41 = true := by
  have sources : Format.x2.operandSources operation = Format.x2.operandSources .movl := rfl
  rw [Format.recordedLongFields, Format.faithfulSources, sources]
  decide

/-- In a lossless format the record without its raw bits determines the syllables. -/
theorem syllable_eq_of_record_eq {unit : ExecutionUnit} {format : Format}
    {leftOperation rightOperation : Operation} {left right : Word}
    {leftLong rightLong : Option Word} {leftRecord rightRecord : Instruction}
    (lossless : format.isLossless = true)
    (leftBound : left.toNat < 2 ^ 41) (rightBound : right.toNat < 2 ^ 41)
    (leftLongBound : format = .x2 → ∀ half ∈ leftLong, half.toNat < 2 ^ 41)
    (rightLongBound : format = .x2 → ∀ half ∈ rightLong, half.toNat < 2 ^ 41)
    (leftFound : OpcodeSpace.lookup? unit left = some ⟨leftOperation, format⟩)
    (rightFound : OpcodeSpace.lookup? unit right = some ⟨rightOperation, format⟩)
    (leftRead : extract leftOperation format left leftLong = .ok leftRecord)
    (rightRead : extract rightOperation format right rightLong = .ok rightRecord)
    (mnemonic : leftRecord.mnemonic = rightRecord.mnemonic)
    (completers : leftRecord.completers = rightRecord.completers)
    (operands : leftRecord.operands = rightRecord.operands) :
    left = right ∧ (format = .x2 → leftLong = rightLong) := by
  obtain ⟨rule, listed, leftMet, leftRule⟩ := OpcodeSpace.exists_losslessRule lossless leftFound
  obtain ⟨rule', listed', rightMet, rightRule⟩ :=
    OpcodeSpace.exists_losslessRule lossless rightFound
  obtain ⟨leftComplete, leftAdmits, _, rfl⟩ := extract_eq_ok_iff.mp leftRead
  obtain ⟨rightComplete, rightAdmits, _, rfl⟩ := extract_eq_ok_iff.mp rightRead
  simp only [Instruction.reading] at mnemonic completers operands
  -- The opcode shows in the mnemonic and the completers, so one rule has found both.
  have chosen := (Format.completer_eq_of_completers_eq completers).1
  have sign : rule.sign = rule'.sign := by
    by_cases compare : format = .a8
    · subst compare
      rw [← OpcodeSpace.read_sign listed (by rw [leftRule]) leftMet,
        ← OpcodeSpace.read_sign listed' (by rw [rightRule]) rightMet]
      exact Format.sign_eq_of_operands_eq operands
    · rw [OpcodeSpace.Rule.sign, OpcodeSpace.Rule.sign, if_neg (by rwa [leftRule]),
        if_neg (by rwa [rightRule])]
  have shown : rule.shown = rule'.shown := by
    simp only [OpcodeSpace.Rule.shown, leftRule, rightRule, mnemonic, chosen, sign]
  obtain rfl := eq_of_distinct (OpcodeSpace.losslessRules_determine unit).1 listed listed' shown
  obtain rfl : leftOperation = rightOperation := by
    rw [leftRule] at rightRule
    exact congrArg Encoding.operation rightRule
  obtain ⟨recorded, recordedLong⟩ :=
    Format.read_eq_of_recorded operands completers leftAdmits rightAdmits
  constructor
  -- Every bit lies in a field that the rule fixes or the record shows.
  · have covered := ((OpcodeSpace.losslessRules_determine unit).2 rule listed).1
    rw [OpcodeSpace.Rule.isLossless, leftRule] at covered
    refine BitField.eq_of_covers covered ?_ leftBound rightBound
    intro field member
    rcases List.mem_append.mp member with inRule | inRecord
    · exact OpcodeSpace.Rule.read_eq_of_admits leftMet rightMet field inRule
    · exact recorded field inRecord
  · rintro rfl
    obtain ⟨leftHalf, rfl⟩ := Option.isSome_iff_exists.mp (leftComplete rfl)
    obtain ⟨rightHalf, rfl⟩ := Option.isSome_iff_exists.mp (rightComplete rfl)
    exact congrArg some (BitField.eq_of_covers (Format.covers_longHalf leftOperation) recordedLong
      (leftLongBound rfl leftHalf rfl) (rightLongBound rfl rightHalf rfl))

/-- Two bundles that differ in slot 0 record the same `movl`. -/
theorem syllable_eq_of_record_eq_movl :
    ∃ left right leftRecord rightRecord,
      Bundle.decode 0x60000118200000000055400100000004 = .ok left ∧
      Bundle.decode 0x60000118200000000055400100000804 = .ok right ∧ left ≠ right ∧
      left.slots.get 2 = .decoded leftRecord ∧ right.slots.get 2 = .decoded rightRecord ∧
      leftRecord.mnemonic = rightRecord.mnemonic ∧
      leftRecord.completers = rightRecord.completers ∧
      leftRecord.operands = rightRecord.operands ∧
      RawBundle.syllable 0x60000118200000000055400100000004 2 =
        RawBundle.syllable 0x60000118200000000055400100000804 2 ∧
      (Format.x2 = .x2 → some (RawBundle.syllable 0x60000118200000000055400100000004 1) =
        some (RawBundle.syllable 0x60000118200000000055400100000804 1)) := by
  have leftDecodes : Bundle.decode 0x60000118200000000055400100000004 = .ok ⟨.mlx, #v[
      .decoded (.reading .nopM .m48 0x8000000 none), .longHalf 0x155,
      .decoded (.reading .movl .x2 0xC000023040 (some 0x155))]⟩ := by decide
  have rightDecodes : Bundle.decode 0x60000118200000000055400100000804 = .ok ⟨.mlx, #v[
      .decoded (.reading .nopM .m48 0x8000040 none), .longHalf 0x155,
      .decoded (.reading .movl .x2 0xC000023040 (some 0x155))]⟩ := by decide
  refine ⟨_, _, .reading .movl .x2 0xC000023040 (some 0x155),
    .reading .movl .x2 0xC000023040 (some 0x155), leftDecodes, rightDecodes, by decide, rfl, rfl,
    rfl, rfl, rfl, ?_⟩
  have leftBound : ∀ half ∈ some (RawBundle.syllable 0x60000118200000000055400100000004 1),
      half.toNat < 2 ^ 41 := by
    rintro half ⟨rfl⟩
    decide
  have rightBound : ∀ half ∈ some (RawBundle.syllable 0x60000118200000000055400100000804 1),
      half.toNat < 2 ^ 41 := by
    rintro half ⟨rfl⟩
    decide
  have leftFound : OpcodeSpace.lookup? .x
      (RawBundle.syllable 0x60000118200000000055400100000004 2) = some ⟨.movl, .x2⟩ := by
    decide
  have rightFound : OpcodeSpace.lookup? .x
      (RawBundle.syllable 0x60000118200000000055400100000804 2) = some ⟨.movl, .x2⟩ := by
    decide
  exact syllable_eq_of_record_eq rfl (by decide) (by decide) (fun _ => leftBound)
    (fun _ => rightBound) leftFound rightFound rfl rfl rfl rfl rfl

end Itanium
