import Itanium.Listing.Text
import Itanium.Proofs.Overwriting

/-!
# The text around an operand

The operands that are present are written with separators between them, destinations before
sources. So if an instruction gets another operand in the place of one, its text changes where that
operand is written and nowhere else.
-/
namespace Itanium

theorem exists_frame_intercalate (separator : String) (front back : List String) :
    ∃ before after, ∀ text : String,
      separator.intercalate (front ++ text :: back) = before ++ text ++ after := by
  obtain ⟨after, behind⟩ : ∃ after, ∀ text : String,
      separator.intercalate (text :: back) = text ++ after := by
    by_cases last : back = []
    · refine ⟨"", fun text => ?_⟩
      rw [last, String.intercalate_singleton, String.append_empty]
    · refine ⟨separator ++ separator.intercalate back, fun text => ?_⟩
      rw [String.intercalate_cons_of_ne_nil last, String.append_assoc]
  by_cases first : front = []
  · refine ⟨"", after, fun text => ?_⟩
    rw [first, List.nil_append, behind, String.empty_append]
  · refine ⟨separator.intercalate front ++ separator, after, fun text => ?_⟩
    rw [String.intercalate_append_of_ne_nil first (List.cons_ne_nil text back), behind,
      String.append_assoc, String.append_assoc, String.append_assoc]

namespace Instruction

theorem exists_frame_operandTexts {operands : List Operand} {position : Nat}
    (inside : position < operands.length) (address : Word) :
    ∃ before after, ∀ operand : Operand, operand.isAbsent = false →
      operandTexts (operands.set position operand) address =
        before ++ operand.text address ++ after := by
  obtain ⟨before, after, frame⟩ := exists_frame_intercalate ", "
    (((operands.take position).filter (!·.isAbsent)).map (·.text address))
    (((operands.drop (position + 1)).filter (!·.isAbsent)).map (·.text address))
  refine ⟨before, after, ?_⟩
  intro operand present
  rw [operandTexts, List.set_eq_take_append_cons_drop, if_pos inside, List.filter_append,
    List.filter_cons_of_pos (by rw [present]; rfl), List.map_append, List.map_cons, frame]

section WithOperand

variable (instruction : Instruction) (bits : Word) {position : Nat} (operand : Operand)

theorem toList_withOperand : (instruction.withOperand bits position operand).operands.toList =
    instruction.operands.toList.set position operand :=
  Vector.toList_setIfInBounds

theorem destinations_withOperand (behind : 0 < position) :
    (instruction.withOperand bits position operand).destinations =
      instruction.destinations.set (position - 1) operand := by
  rw [destinations, toList_withOperand, List.take_set, List.drop_set, if_neg (by omega)]
  rfl

theorem sources_withOperand :
    (instruction.withOperand bits position operand).sources =
      if position < max instruction.sourceIndex 1 then instruction.sources
      else instruction.sources.set (position - max instruction.sourceIndex 1) operand := by
  rw [sources, toList_withOperand, List.drop_set]
  rfl

theorem length_destinations : instruction.destinations.length =
    min (max instruction.sourceIndex 1) 7 - 1 := by
  rw [destinations, List.length_drop, List.length_take, Vector.length_toList]

theorem length_sources : instruction.sources.length = 7 - max instruction.sourceIndex 1 := by
  rw [sources, List.length_drop, Vector.length_toList]

end WithOperand

/-- An operand with a text is written before the sources or among them. -/
theorem exists_frame_operandsText (instruction : Instruction) {position : Nat}
    (behind : 0 < position) (room : position < 7) (address : Word) :
    ∃ before after, ∀ (bits : Word) (operand : Operand), operand.isAbsent = false →
      operand.text address ≠ "" →
      (instruction.withOperand bits position operand).operandsText address =
        before ++ operand.text address ++ after := by
  -- Whether there is a side to separate from the other is asked of its text, not of its operands.
  have written (before after text : String) (shown : text ≠ "") :
      ¬(before ++ text ++ after).isEmpty = true := by
    simp [String.isEmpty_iff, shown]
  by_cases early : position < max instruction.sourceIndex 1
  · have inside : position - 1 < instruction.destinations.length := by
      rw [length_destinations]
      omega
    obtain ⟨before, after, frame⟩ := exists_frame_operandTexts inside address
    -- The sources follow, if there are any.
    refine ⟨" " ++ before, after ++ if (operandTexts instruction.sources address).isEmpty then ""
      else " = " ++ operandTexts instruction.sources address, ?_⟩
    intro bits operand present shown
    rw [operandsText, destinations_withOperand _ _ _ behind, sources_withOperand, if_pos early,
      frame operand present]
    rw [if_neg (written before after _ shown)]
    split
    · simp only [String.append_assoc, String.append_empty]
    · simp only [String.append_assoc]
  · have inside : position - max instruction.sourceIndex 1 < instruction.sources.length := by
      rw [length_sources]
      omega
    have outside : instruction.destinations.length ≤ position - 1 := by
      rw [length_destinations]
      omega
    obtain ⟨before, after, frame⟩ := exists_frame_operandTexts inside address
    refine ⟨(if (operandTexts instruction.destinations address).isEmpty then " "
      else " " ++ operandTexts instruction.destinations address ++ " = ") ++ before, after, ?_⟩
    intro bits operand present shown
    rw [operandsText, destinations_withOperand _ _ _ behind, List.set_eq_of_length_le outside,
      sources_withOperand, if_neg early, frame operand present]
    simp only [if_neg (written before after _ shown)]
    split
    · simp only [String.append_assoc]
    · simp only [String.append_assoc]

/-- The text of an instruction around one of its operands. -/
theorem exists_frame_text (instruction : Instruction) {position : Nat}
    (behind : 0 < position) (room : position < 7) (address : Word) :
    ∃ before after, ∀ (bits : Word) (operand : Operand), operand.isAbsent = false →
      operand.text address ≠ "" →
      (instruction.withOperand bits position operand).text address =
        before ++ operand.text address ++ after := by
  obtain ⟨before, after, frame⟩ := instruction.exists_frame_operandsText behind room address
  refine ⟨instruction.predicateText ++ instruction.nameText ++ before, after, ?_⟩
  intro bits operand present shown
  have predicate : (instruction.withOperand bits position operand).operands[0] =
      instruction.operands[0] :=
    Vector.getElem_setIfInBounds_ne (by decide) (by omega)
  have predicateText : (instruction.withOperand bits position operand).predicateText =
      instruction.predicateText := by
    rw [Instruction.predicateText, predicate]
    rfl
  rw [text, frame bits operand present shown, predicateText, String.append_assoc,
    String.append_assoc, String.append_assoc, String.append_assoc, String.append_assoc]
  rfl

end Instruction

end Itanium
