import Itanium.Layout.Fields
import Itanium.Layout.Operands
import Itanium.Proofs.Word

/-!
# What a layout loses

A quantity is faithful if its value determines the fields it is computed from: no bit is shifted
out, no two codes select one value, and no difference falls below zero. A hint is faithful if its
completer determines its fields. Faithfulness is read off the layout alone. Apart from the
difference of two fields, every quantity of every format is faithful.
-/
namespace Itanium.Layout

open BitField Word

namespace Quantity

/-- The fields of the syllable that the number is computed from. -/
def fields : Quantity → List BitField
  | fixed _ => []
  | unsigned fields _ | signed fields _ => fields
  | above _ field | below _ field | choice field _ => [field]
  | difference minuend subtrahend => [minuend, subtrahend]
  | spliced low _ high _ => low ++ high

/-- The field of the syllable before that the number is computed from. -/
def longFields : Quantity → List BitField
  | spliced _ long _ _ => [long]
  | _ => []

def isFaithful : Quantity → Bool
  | fixed _ => true
  | unsigned fields scale | signed fields scale => totalWidth fields + scale ≤ 64
  | above base field => base + 2 ^ field.width ≤ 2 ^ 64
  | below top field => 2 ^ field.width ≤ top + 1 && top < 2 ^ 64
  | difference _ _ => false
  | choice field values => 2 ^ field.width ≤ values.length && values.Nodup
  | spliced low long high scale =>
    totalWidth low + long.width < 64 &&
      totalWidth low + long.width + totalWidth high + scale ≤ 64

/-- The one kind of quantity that no check makes faithful. -/
def isDifference : Quantity → Bool
  | difference _ _ => true
  | _ => false

theorem read_le_top {top : Nat} {field : BitField} (faithful : (below top field).isFaithful = true)
    (syllable : Word) : field.read syllable ≤ top := by
  have bound := field.read_lt syllable
  simp only [isFaithful, Bool.and_eq_true, decide_eq_true_eq] at faithful
  omega

/-- The parts of a spliced number stand one above the other. -/
theorem toNat_spliced {low high : List BitField} {long : BitField} {scale : Nat}
    (faithful : (spliced low long high scale).isFaithful = true) (syllable previous : Word) :
    ((spliced low long high scale).value syllable previous).toNat =
      (gather syllable low + long.read previous * 2 ^ totalWidth low +
        gather syllable high * 2 ^ (totalWidth low + long.width)) * 2 ^ scale := by
  simp only [isFaithful, Bool.and_eq_true, decide_eq_true_eq] at faithful
  have lowBound := gather_lt syllable low
  have inner := add_mul_two_pow_lt lowBound (long.read_lt previous)
  have unscaled : (((syllable.gatherUnsigned low).overlay (totalWidth low) previous long).overlay
      (totalWidth low + long.width) (syllable.gatherUnsigned high) ⟨0, totalWidth high⟩).toNat =
      gather syllable low + long.read previous * 2 ^ totalWidth low +
        gather syllable high * 2 ^ (totalWidth low + long.width) := by
    rw [toNat_overlay _ _ (by dsimp only; omega) (by omega),
      toNat_overlay _ _ (by omega) (by omega), toNat_gatherUnsigned _ (by omega),
      read_gatherUnsigned _ (by omega), Nat.mod_eq_of_lt lowBound, Nat.mod_eq_of_lt inner]
  -- The three parts together fit below the scale, so the shift loses nothing.
  have bound := add_mul_two_pow_lt inner (gather_lt syllable high)
  rw [← unscaled] at bound ⊢
  exact toNat_shiftLeft_of_lt faithful.2 bound

/-- The value of a faithful quantity determines every field it is computed from. -/
theorem read_eq_of_value_eq {quantity : Quantity} (faithful : quantity.isFaithful = true)
    {left right leftLong rightLong : Word}
    (equal : quantity.value left leftLong = quantity.value right rightLong) :
    (∀ field ∈ quantity.fields, field.read left = field.read right) ∧
      ∀ field ∈ quantity.longFields, field.read leftLong = field.read rightLong := by
  cases quantity with
  | fixed value => simp [fields, longFields]
  | unsigned fields scale =>
    simp only [isFaithful, decide_eq_true_eq] at faithful
    exact ⟨read_eq_of_gather_eq (gather_eq_of_scaled_unsigned_eq faithful equal),
      by simp [longFields]⟩
  | signed fields scale =>
    simp only [isFaithful, decide_eq_true_eq] at faithful
    exact ⟨read_eq_of_gather_eq (gather_eq_of_scaled_signed_eq faithful equal),
      by simp [longFields]⟩
  | above base field =>
    have leftBound := field.read_lt left
    have rightBound := field.read_lt right
    simp only [isFaithful, decide_eq_true_eq] at faithful
    have same := congrArg BitVec.toNat equal
    simp only [value, BitVec.toNat_ofNat] at same
    rw [Nat.mod_eq_of_lt (by omega), Nat.mod_eq_of_lt (by omega)] at same
    simp only [fields, longFields, List.mem_singleton, forall_eq, List.not_mem_nil,
      false_implies, implies_true, and_true]
    omega
  | below top field =>
    have leftBound := read_le_top faithful left
    have rightBound := read_le_top faithful right
    simp only [isFaithful, Bool.and_eq_true, decide_eq_true_eq] at faithful
    have same := congrArg BitVec.toNat equal
    simp only [value, BitVec.toNat_ofNat] at same
    rw [Nat.mod_eq_of_lt (by omega), Nat.mod_eq_of_lt (by omega)] at same
    simp only [fields, longFields, List.mem_singleton, forall_eq, List.not_mem_nil,
      false_implies, implies_true, and_true]
    omega
  | difference minuend subtrahend => simp [isFaithful] at faithful
  | choice field values =>
    have leftBound := field.read_lt left
    have rightBound := field.read_lt right
    simp only [isFaithful, Bool.and_eq_true, decide_eq_true_eq] at faithful
    simp only [value] at equal
    -- Every code selects a value, and no value stands twice in the list.
    rw [List.getD_eq_getElem _ _ (by omega), List.getD_eq_getElem _ _ (by omega),
      faithful.2.getElem_inj_iff] at equal
    simp [fields, longFields, equal]
  | spliced low long high scale =>
    have same := congrArg BitVec.toNat equal
    rw [toNat_spliced faithful, toNat_spliced faithful] at same
    -- Unscaled, the number splits at the long field, and its lower part splits below it.
    have parts := Nat.eq_of_mul_eq_mul_right (Nat.two_pow_pos scale) same
    obtain ⟨lower, highEqual⟩ := eq_and_eq_of_add_mul_two_pow_eq
      (add_mul_two_pow_lt (gather_lt left low) (long.read_lt leftLong))
      (add_mul_two_pow_lt (gather_lt right low) (long.read_lt rightLong)) parts
    obtain ⟨lowEqual, longEqual⟩ :=
      eq_and_eq_of_add_mul_two_pow_eq (gather_lt left low) (gather_lt right low) lower
    refine ⟨?_, by simpa [longFields] using longEqual⟩
    intro field member
    rcases List.mem_append.mp member with inLow | inHigh
    · exact read_eq_of_gather_eq lowEqual field inLow
    · exact read_eq_of_gather_eq highEqual field inHigh

end Quantity

namespace Hint

def isFaithful (hint : Hint) : Bool :=
  2 ^ totalWidth hint.fields ≤ hint.forms.length && hint.forms.Nodup

theorem read_eq_of_completer_eq {hint : Hint} (faithful : hint.isFaithful = true)
    {left right : Word} (equal : hint.completer left = hint.completer right) :
    ∀ field ∈ hint.fields, field.read left = field.read right := by
  have leftBound := gather_lt left hint.fields
  have rightBound := gather_lt right hint.fields
  simp only [isFaithful, Bool.and_eq_true, decide_eq_true_eq] at faithful
  simp only [completer, Completer.mk.injEq, true_and] at equal
  rw [List.getD_eq_getElem _ _ (by omega), List.getD_eq_getElem _ _ (by omega),
    faithful.2.getElem_inj_iff] at equal
  exact read_eq_of_gather_eq equal

end Hint

namespace Source

variable {source : Source} {operation : Operation} {syllable long : Word}

theorem operand_of_isPresent (present : source.isPresent syllable = true) :
    source.operand operation syllable long =
      ⟨source.rule.kind syllable operation, source.quantity.value syllable long⟩ :=
  if_pos present

theorem isPresent_of_always (always : source.presence.isNone = true) :
    source.isPresent syllable = true := by
  rw [isPresent, Option.isNone_iff_eq_none.mp always]
  rfl

end Source

/-! ### The sources of the formats -/

section Optional

variable (operation : Operation)

theorem carry_cases : carry operation = [] ∨
    carry operation = [.whenCode ⟨27, 2⟩ 1 (.immediate (.fixed 1))] ∨
    carry operation = [.whenCode ⟨27, 2⟩ 0 (.immediate (.fixed 1))] := by
  unfold carry
  split
  · exact .inr (.inl rfl)
  · exact .inr (.inr rfl)
  · exact .inl rfl

theorem secondRegister_cases (mnemonic : Mnemonic) : secondRegister operation mnemonic = [] ∨
    secondRegister operation mnemonic = [.implied compareStoreData] := by
  unfold secondRegister
  split
  · exact .inr rfl
  · exact .inl rfl

theorem comparands_cases :
    comparands operation = [.implied compareStoreData, .implied compareValue] ∨
      comparands operation = [.whenCode ⟨33, 3⟩ 0 (.implied compareValue)] := by
  unfold comparands
  split
  · exact .inl rfl
  · exact .inr rfl

end Optional

end Itanium.Layout

namespace Itanium.Format

open Layout

/-- The lists that the sources of a format can be, whatever the operation. -/
def sourceLists : Format → List (List Source)
  | .a1 => [[], [.whenCode ⟨27, 2⟩ 1 (.immediate (.fixed 1))],
      [.whenCode ⟨27, 2⟩ 0 (.immediate (.fixed 1))]].map
        ([.general 6, .general 13, .general 20] ++ ·)
  | .m1 => [[.general 6, .memory 20], [.general 6, .implied compareStoreData, .memory 20]]
  | .m4 => [[.memory 20, .general 13], [.memory 20, .general 13, .implied compareStoreData]]
  | .m16 => [[.implied compareStoreData, .implied compareValue],
      [.whenCode ⟨33, 3⟩ 0 (.implied compareValue)]].map
        ([.general 6, .memory 20, .general 13] ++ ·)
  | format => [format.sources .add]

theorem sources_mem_sourceLists (format : Format) (operation : Operation) :
    format.sources operation ∈ format.sourceLists := by
  -- In four formats the sources depend on the operation.
  cases format
  case a1 =>
    rcases carry_cases operation with none | plus | minus
    · simp [sources, sourceLists, none]
    · simp [sources, sourceLists, plus]
    · simp [sources, sourceLists, minus]
  case m1 =>
    rcases secondRegister_cases operation .ld16 with none | second
    · simp [sources, sourceLists, none]
    · simp [sources, sourceLists, second]
  case m4 =>
    rcases secondRegister_cases operation .st16 with none | second
    · simp [sources, sourceLists, none]
    · simp [sources, sourceLists, second]
  case m16 =>
    rcases comparands_cases operation with exchange | other
    · simp [sources, sourceLists, exchange]
    · simp [sources, sourceLists, other]
  all_goals exact List.mem_singleton.mpr rfl

/-- What holds of the listed sources of each format holds for every operation. -/
theorem of_sources (property : Format → List Source → Prop)
    (checked : ∀ format : Format, ∀ sources ∈ format.sourceLists, property format sources)
    (format : Format) (operation : Operation) : property format (format.sources operation) :=
  checked format _ (format.sources_mem_sourceLists operation)

/-- Every source has a position among the seven operands. -/
theorem length_sources_le (format : Format) (operation : Operation) :
    (format.sources operation).length ≤ 6 := by
  refine of_sources (fun _ sources => sources.length ≤ 6) ?_ format operation
  intro format
  cases format <;> decide

theorem isFaithful_or_isDifference (format : Format) (operation : Operation) :
    ∀ source ∈ format.sources operation,
      source.quantity.isFaithful = true ∨ source.quantity.isDifference = true := by
  refine of_sources (fun _ sources => ∀ source ∈ sources,
    source.quantity.isFaithful = true ∨ source.quantity.isDifference = true) ?_ format operation
  intro format
  cases format <;> decide

end Itanium.Format
