import Itanium.Proofs.Names
import Itanium.Proofs.OperandText

/-!
# Instructions are read in one way

The words of an instruction's text are its predicate, its name and its operands; nothing depends on
which operands are destinations. `IsListable` says what else has to hold of an instruction for its
words to determine it, and two listable instructions with one text at one address agree in
everything that is listed.
-/
namespace Itanium

open Text

/-- The instructions that name a target: what looks like a number in them is a displacement. -/
def Mnemonic.isTargeted : Mnemonic → Bool
  | .br | .brl | .brp | .chk | .fchkf => true
  | _ => false

namespace Instruction

/-- The qualifying predicate, at position 0. -/
def predicate (instruction : Instruction) : Operand :=
  instruction.operands.head

/-- The operand behind the predicate. -/
def firstOperand (instruction : Instruction) : Operand :=
  instruction.operands[1]

/-- Of the moves, those to a branch register name a target too. -/
def IsTargeted (instruction : Instruction) : Prop :=
  instruction.mnemonic.isTargeted = true ∨
    (instruction.mnemonic = .mov ∧ instruction.firstOperand.kind = .breg)

/-- What makes the text of an instruction unambiguous. -/
structure IsListable (instruction : Instruction) : Prop where
  predicate : (instruction.mnemonic = .brp ∧ instruction.predicate = .absent) ∨
    (instruction.mnemonic ≠ .brp ∧ instruction.predicate.kind = .preg)
  acquires : .acq ∉ instruction.shownForms.tail
  /-- No operand stands behind an absent one. -/
  operands : ∃ shown count, (∀ operand ∈ shown, operand.IsShown) ∧
    instruction.operands.toList.tail = shown ++ List.replicate count .absent
  displaces : ∀ operand ∈ instruction.operands.toList.tail,
    operand.kind = .disp → instruction.IsTargeted
  immediates : ∀ operand ∈ instruction.operands.toList.tail,
    operand.kind = .imm → ¬instruction.IsTargeted

/-! ### The words of an instruction -/

/-- The operands behind the predicate that have a text. -/
def shownOperands (instruction : Instruction) : List Operand :=
  instruction.operands.toList.tail.filter (!·.isAbsent)

def predicateWord (instruction : Instruction) : List (List Char) :=
  if instruction.predicate.kind = .preg ∧ instruction.predicate.value ≠ 0 then
    ['(' :: 'p' :: ((Numeral.decimal instruction.predicate.value.toNat).toList ++ [')'])]
  else []

theorem words_operandTexts (operands : List Operand) (address : Word) :
    words (operandTexts operands address).toList =
      (operands.filter (!·.isAbsent)).map (fun operand => (operand.text address).toList) := by
  have joined : (operandTexts operands address).toList = [',', ' '].intercalate
      ((operands.filter (!·.isAbsent)).map (fun operand => (operand.text address).toList)) := by
    rw [operandTexts, String.toList_intercalate, List.map_map]
    rfl
  rw [joined]
  apply words_intercalate
  intro text member
  obtain ⟨operand, listed, rfl⟩ := List.mem_map.mp member
  apply Operand.isSolid_text
  simpa [Operand.isAbsent] using (List.mem_filter.mp listed).2

theorem destinations_append_sources (instruction : Instruction) :
    instruction.destinations ++ instruction.sources = instruction.operands.toList.tail := by
  obtain ⟨before, split⟩ : ∃ before, max instruction.sourceIndex 1 = before + 1 :=
    ⟨max instruction.sourceIndex 1 - 1, by omega⟩
  rw [destinations, sources, split]
  cases instruction.operands.toList with
  | nil => simp
  | cons predicate rest => simp

/-- What stands between destinations and sources, and before them, is a gap. -/
theorem words_operandsText_parts (instruction : Instruction) (address : Word) :
    words (instruction.operandsText address).toList =
      words (operandTexts instruction.destinations address).toList ++
        words (operandTexts instruction.sources address).toList := by
  have spaced (text : String) : words (" " ++ text).toList = words text.toList := by
    rw [String.toList_append]
    exact words_cons_gap text.toList rfl
  unfold operandsText
  dsimp only
  split
  next noDestinations =>
    rw [String.isEmpty_iff.mp noDestinations]
    split
    next noSources => rw [String.isEmpty_iff.mp noSources]; rfl
    next => exact spaced _
  next =>
    split
    next noSources =>
      rw [String.isEmpty_iff.mp noSources, spaced]
      exact (List.append_nil _).symm
    next =>
      rw [String.append_assoc, String.append_assoc, spaced, String.toList_append,
        String.toList_append]
      exact (words_append_gap _ _ rfl).trans (congrArg _ ((words_cons_gap _ rfl).trans
        (words_cons_gap _ rfl)))

theorem words_operandsText (instruction : Instruction) (address : Word) :
    words (instruction.operandsText address).toList =
      instruction.shownOperands.map (fun operand => (operand.text address).toList) := by
  rw [words_operandsText_parts, words_operandTexts, words_operandTexts, ← List.map_append,
    ← List.filter_append, destinations_append_sources]
  rfl

theorem operandsText_starts_with_gap (instruction : Instruction) (address : Word) :
    (instruction.operandsText address).toList = [] ∨
      ∃ rest, (instruction.operandsText address).toList = ' ' :: rest := by
  unfold operandsText
  dsimp only
  split
  · split
    · exact .inl rfl
    · exact .inr ⟨_, by rw [String.toList_append]; rfl⟩
  · split
    · exact .inr ⟨_, by rw [String.toList_append]; rfl⟩
    · exact .inr ⟨_, by rw [String.append_assoc, String.append_assoc, String.toList_append]; rfl⟩

theorem predicateText_eq (instruction : Instruction) : instruction.predicateText =
    if instruction.predicate.kind = .preg ∧ instruction.predicate.value ≠ 0 then
      "(p" ++ Numeral.decimal instruction.predicate.value.toNat ++ ") "
    else "" :=
  rfl

theorem toList_predicate (number : Nat) :
    ("(p" ++ Numeral.decimal number ++ ") ").toList =
      ('(' :: 'p' :: ((Numeral.decimal number).toList ++ [')'])) ++ [' '] := by
  simp

theorem isSolid_predicate (number : Nat) :
    IsSolid ('(' :: 'p' :: ((Numeral.decimal number).toList ++ [')'])) := by
  refine ⟨List.cons_ne_nil _ _, ?_⟩
  intro c member
  simp only [List.mem_cons, List.mem_append, List.not_mem_nil, or_false] at member
  rcases member with rfl | rfl | digit | rfl
  · rfl
  · rfl
  · exact isGap_of_isDigit (Numeral.isDigit_of_mem_decimal digit)
  · rfl

theorem words_text (instruction : Instruction) (address : Word) :
    words (instruction.text address).toList = instruction.predicateWord ++
      instruction.nameText.toList ::
        instruction.shownOperands.map (fun operand => (operand.text address).toList) := by
  have named : words (instruction.nameText ++ instruction.operandsText address).toList =
      instruction.nameText.toList ::
        instruction.shownOperands.map (fun operand => (operand.text address).toList) := by
    rw [String.toList_append, ← words_operandsText]
    rcases instruction.operandsText_starts_with_gap address with none | ⟨rest, spelled⟩
    · rw [none, List.append_nil, words_of_isSolid instruction.isSolid_nameText, words_nil]
    · rw [spelled, words_append_gap _ _ rfl, words_of_isSolid instruction.isSolid_nameText,
        words_cons_gap _ rfl]
      rfl
  rw [text, String.append_assoc, String.toList_append, predicateText_eq, predicateWord]
  split
  next =>
    rw [toList_predicate, List.append_assoc, List.singleton_append, words_append_gap _ _ rfl,
      words_of_isSolid (isSolid_predicate _), named]
  next => exact named

/-! ### What the words determine -/

section Equal

variable {left right : Instruction} {address : Word}

theorem predicateWord_cases (instruction : Instruction) :
    instruction.predicateWord = [] ∨ ∃ rest, instruction.predicateWord = ['(' :: rest] := by
  unfold predicateWord
  split
  · exact .inr ⟨_, rfl⟩
  · exact .inl rfl

/-- A name does not open with a parenthesis, so it is told from a predicate. -/
theorem parts_eq_of_words_eq
    (equal : words (left.text address).toList = words (right.text address).toList) :
    left.predicateWord = right.predicateWord ∧
      left.nameText.toList = right.nameText.toList ∧
      left.shownOperands.map (fun operand => (operand.text address).toList) =
        right.shownOperands.map (fun operand => (operand.text address).toList) := by
  -- What is left is to tell whether the first word is a predicate.
  have same := left.words_text address
  rw [equal, right.words_text address] at same
  rcases left.predicateWord_cases with none | ⟨rest, opens⟩
  · rcases right.predicateWord_cases with none' | ⟨rest', opens'⟩
    · rw [none, none', List.nil_append, List.nil_append] at same
      obtain ⟨names, operands⟩ := List.cons.inj same
      exact ⟨none.trans none'.symm, names.symm, operands.symm⟩
    · rw [none, opens', List.nil_append, List.singleton_append] at same
      have head := left.head_nameText
      rw [← (List.cons.inj same).1] at head
      exact absurd rfl head
  · rcases right.predicateWord_cases with none' | ⟨rest', opens'⟩
    · rw [opens, none', List.nil_append, List.singleton_append] at same
      have head := right.head_nameText
      rw [(List.cons.inj same).1] at head
      exact absurd rfl head
    · rw [opens, opens', List.singleton_append, List.singleton_append] at same
      obtain ⟨predicates, later⟩ := List.cons.inj same
      obtain ⟨names, operands⟩ := List.cons.inj later
      exact ⟨by rw [opens, opens', predicates], names.symm, operands.symm⟩

theorem predicateWord_of_preg {instruction : Instruction}
    (preg : instruction.predicate.kind = .preg) : instruction.predicateWord =
      if instruction.predicate.value = 0 then [] else
        ['(' :: 'p' ::
          ((Numeral.decimal instruction.predicate.value.toNat).toList ++ [')'])] := by
  unfold predicateWord
  by_cases zero : instruction.predicate.value = 0
  · simp [zero]
  · simp [preg]

theorem value_eq_of_predicateWord_eq (leftPreg : left.predicate.kind = .preg)
    (rightPreg : right.predicate.kind = .preg)
    (equal : left.predicateWord = right.predicateWord) :
    left.predicate.value = right.predicate.value := by
  rw [predicateWord_of_preg leftPreg, predicateWord_of_preg rightPreg] at equal
  split at equal
  next leftZero =>
    split at equal
    next rightZero => rw [leftZero, rightZero]
    next => cases equal
  next =>
    split at equal
    next => cases equal
    next =>
      simp only [List.cons.injEq, true_and, and_true, List.append_cancel_right_eq] at equal
      exact BitVec.eq_of_toNat_eq (Numeral.decimal_inj equal)

/-- Only a branch predict has no predicate, and the mnemonic tells. -/
theorem predicate_eq (leftListable : left.IsListable) (rightListable : right.IsListable)
    (mnemonics : left.mnemonic = right.mnemonic)
    (predicates : left.predicateWord = right.predicateWord) :
    left.predicate = right.predicate := by
  rcases leftListable.predicate with ⟨predict, absent⟩ | ⟨other, preg⟩
  · rcases rightListable.predicate with ⟨_, absent'⟩ | ⟨other', _⟩
    · rw [absent, absent']
    · exact absurd (mnemonics ▸ predict) other'
  · rcases rightListable.predicate with ⟨predict', _⟩ | ⟨_, preg'⟩
    · exact absurd (mnemonics ▸ predict') other
    · exact Operand.eq_of_kind_eq (preg.trans preg'.symm)
        (value_eq_of_predicateWord_eq preg preg' predicates)

end Equal

/-! ### Operands -/

theorem IsListable.shownOperands {instruction : Instruction} (listable : instruction.IsListable) :
    (∀ operand ∈ instruction.shownOperands, operand.IsShown) ∧ ∃ count,
      instruction.operands.toList.tail =
        instruction.shownOperands ++ List.replicate count .absent := by
  obtain ⟨shown, count, isShown, tail⟩ := listable.operands
  have same : instruction.shownOperands = shown := by
    rw [Instruction.shownOperands, tail, List.filter_append, List.filter_eq_self.mpr,
      List.filter_eq_nil_iff.mpr, List.append_nil]
    · intro operand member
      simp [List.eq_of_mem_replicate member, Operand.isAbsent, Operand.absent]
    · intro operand member
      simpa [Operand.isAbsent] using (isShown operand member).1
  rw [same]
  exact ⟨isShown, count, tail⟩

theorem toList_operands (instruction : Instruction) :
    instruction.operands.toList =
      instruction.predicate :: instruction.operands.toList.tail := by
  have first : instruction.operands.toList[0]? = some instruction.predicate := by
    simp [predicate, Vector.head]
  cases split : instruction.operands.toList with
  | nil =>
    rw [split] at first
    cases first
  | cons predicate rest =>
    rw [split] at first
    rw [Option.some.inj first]
    rfl

theorem first_operand {instruction : Instruction} (listable : instruction.IsListable) :
    instruction.firstOperand = instruction.shownOperands.headD .absent := by
  obtain ⟨_, count, tail⟩ := listable.shownOperands
  have second : instruction.operands.toList.tail[0]? = some instruction.firstOperand := by
    simp [firstOperand]
  rw [tail] at second
  cases shown : instruction.shownOperands with
  | nil =>
    rw [shown, List.nil_append, List.getElem?_replicate] at second
    split at second
    next => exact (Option.some.inj second).symm
    next => cases second
  | cons first rest =>
    rw [shown] at second
    exact (Option.some.inj second).symm

section Equal

variable {left right : Instruction} {address : Word}

/-- A branch register is not a number, so its text shows that it is one. -/
theorem isTargeted_of_texts_eq (leftListable : left.IsListable) (rightListable : right.IsListable)
    (mnemonics : left.mnemonic = right.mnemonic)
    (texts : left.shownOperands.map (fun operand => (operand.text address).toList) =
      right.shownOperands.map (fun operand => (operand.text address).toList))
    (targeted : left.IsTargeted) : right.IsTargeted := by
  rcases targeted with byMnemonic | ⟨move, branch⟩
  · exact .inl (mnemonics ▸ byMnemonic)
  · refine .inr ⟨mnemonics ▸ move, ?_⟩
    rw [first_operand leftListable] at branch
    rw [first_operand rightListable]
    have leftShown := leftListable.shownOperands.1
    have rightShown := rightListable.shownOperands.1
    -- The first operands have one text, and the left one is a branch register.
    generalize left.shownOperands = operands at *
    generalize right.shownOperands = operands' at *
    cases operands with
    | nil => cases branch
    | cons first rest =>
      cases operands' with
      | nil => cases texts
      | cons first' rest' =>
        rw [List.headD_cons] at branch ⊢
        rw [List.map_cons, List.map_cons] at texts
        have same := String.toList_inj.mp (List.cons.inj texts).1
        rcases Operand.kind_eq_of_text_eq (leftShown first List.mem_cons_self).1
          (rightShown first' List.mem_cons_self).1 same with kinds | ⟨number, _⟩
        · exact kinds ▸ branch
        · rw [branch] at number
          cases number

/-- At the same place in two instructions one text stands for one operand. -/
theorem operand_eq_of_text_eq (leftListable : left.IsListable) (rightListable : right.IsListable)
    (targets : left.IsTargeted ↔ right.IsTargeted) {operand operand' : Operand}
    (listed : operand ∈ left.shownOperands) (listed' : operand' ∈ right.shownOperands)
    (equal : operand.text address = operand'.text address) : operand = operand' := by
  have shown := leftListable.shownOperands.1 operand listed
  have shown' := rightListable.shownOperands.1 operand' listed'
  have member := (List.mem_filter.mp listed).1
  have member' := (List.mem_filter.mp listed').1
  have kinds : operand.kind = operand'.kind := by
    rcases Operand.kind_eq_of_text_eq shown.1 shown'.1 equal with kinds | ⟨number, number'⟩
    · exact kinds
    -- Two numbers are of one kind, since one instruction names a target if the other does.
    · rcases OperandKind.imm_or_disp number with imm | disp
      · rcases OperandKind.imm_or_disp number' with imm' | disp'
        · exact imm.trans imm'.symm
        · have targeted := rightListable.displaces operand' member' disp'
          exact absurd (targets.mpr targeted) (leftListable.immediates operand member imm)
      · rcases OperandKind.imm_or_disp number' with imm' | disp'
        · have targeted := leftListable.displaces operand member disp
          exact absurd (targets.mp targeted) (rightListable.immediates operand' member' imm')
        · exact disp.trans disp'.symm
  exact Operand.eq_of_kind_eq kinds (Operand.value_eq_of_text_eq shown shown' kinds equal)

end Equal

end Instruction

/-- Lists with equal images are equal if equal images come from equal members. -/
theorem eq_of_map_eq {α β : Type} {f : α → β} {left right : List α}
    (inj : ∀ a ∈ left, ∀ b ∈ right, f a = f b → a = b) (equal : left.map f = right.map f) :
    left = right := by
  induction left generalizing right with
  | nil => exact (List.map_eq_nil_iff.mp equal.symm).symm
  | cons a rest ih =>
    cases right with
    | nil => cases equal
    | cons b rest' =>
      obtain ⟨first, later⟩ := List.cons.inj equal
      rw [inj a List.mem_cons_self b List.mem_cons_self first]
      rw [ih (fun c member d member' => inj c (List.mem_cons_of_mem a member) d
        (List.mem_cons_of_mem b member')) later]

namespace Instruction

/-- Listable instructions with the same words at one address have the same mnemonic, the same
completers and the same operands. -/
theorem eq_of_words_eq {left right : Instruction} {address : Word}
    (leftListable : left.IsListable) (rightListable : right.IsListable)
    (equal : words (left.text address).toList = words (right.text address).toList) :
    left.mnemonic = right.mnemonic ∧ left.shownForms = right.shownForms ∧
      left.operands = right.operands := by
  obtain ⟨predicates, names, texts⟩ := parts_eq_of_words_eq equal
  obtain ⟨mnemonics, forms⟩ :=
    eq_of_nameText_eq leftListable.acquires rightListable.acquires names
  have targets : left.IsTargeted ↔ right.IsTargeted :=
    ⟨isTargeted_of_texts_eq leftListable rightListable mnemonics texts,
      isTargeted_of_texts_eq rightListable leftListable mnemonics.symm texts.symm⟩
  have shown : left.shownOperands = right.shownOperands := by
    refine eq_of_map_eq ?_ texts
    intro operand listed operand' listed' same
    exact operand_eq_of_text_eq leftListable rightListable targets listed listed'
      (String.toList_inj.mp same)
  refine ⟨mnemonics, forms, ?_⟩
  obtain ⟨_, count, tail⟩ := leftListable.shownOperands
  obtain ⟨_, count', tail'⟩ := rightListable.shownOperands
  -- There are six positions behind the predicate in both, so as many are absent.
  have counts : count = count' := by
    have lengths := congrArg List.length tail
    have lengths' := congrArg List.length tail'
    simp only [List.length_tail, Vector.length_toList, List.length_append,
      List.length_replicate] at lengths lengths'
    rw [shown] at lengths
    omega
  have tails : left.operands.toList.tail = right.operands.toList.tail := by
    rw [tail, tail', shown, counts]
  have heads := predicate_eq leftListable rightListable mnemonics predicates
  apply Vector.toList_inj.mp
  rw [toList_operands left, toList_operands right, heads, tails]

theorem eq_of_text_eq {left right : Instruction} {address : Word}
    (leftListable : left.IsListable) (rightListable : right.IsListable)
    (equal : left.text address = right.text address) :
    left.mnemonic = right.mnemonic ∧ left.shownForms = right.shownForms ∧
      left.operands = right.operands :=
  eq_of_words_eq leftListable rightListable (by rw [equal])

end Instruction

end Itanium
