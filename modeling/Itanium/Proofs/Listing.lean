import Itanium.Proofs.Bundle
import Itanium.Proofs.InstructionText

/-!
# Listings are read in one way

Every instruction of a bundle that decodes is listable, whatever its encoding: the kinds of its
operands, the places where operands can be absent and the completers that can follow one another are
properties of the finitely many rules of the opcode space. So the listing of an instruction
determines what it shows.
-/
namespace Itanium

open Layout

/-! ### The kinds of a source -/

namespace Layout

def Quantity.isZero : Quantity → Bool
  | fixed 0 => true
  | _ => false

theorem Quantity.value_of_isZero {quantity : Quantity} (zero : quantity.isZero = true)
    (syllable long : Word) : quantity.value syllable long = 0 := by
  unfold isZero at zero
  split at zero
  · rfl
  · cases zero

namespace Source

/-- The kinds that an operand from the source can have. -/
def kinds (source : Source) (operation : Operation) : List OperandKind :=
  match source.rule with
  | .always kind => [kind]
  | .byCode _ _ equal different => [equal, different]
  | .ofOperation => [operation.assembly.systemRegister]

theorem kind_mem_kinds (source : Source) (operation : Operation) (syllable : Word) :
    source.rule.kind syllable operation ∈ source.kinds operation := by
  unfold kinds KindRule.kind
  cases source.rule with
  | always kind => exact List.mem_singleton.mpr rfl
  | byCode field code equal different =>
    dsimp only
    split
    · exact List.mem_cons_self
    · exact List.mem_cons_of_mem _ (List.mem_singleton.mpr rfl)
  | ofOperation => exact List.mem_singleton.mpr rfl

/-- An operand from the source has a text, and a value only if its text shows it. -/
def isShowable (source : Source) (operation : Operation) : Bool :=
  (source.kinds operation).all fun kind =>
    kind != .none && (!kind.isUnique || source.quantity.isZero)

variable {source : Source} {operation : Operation} {syllable long : Word}

theorem isShown_operand (showable : source.isShowable operation = true)
    (present : source.isPresent syllable = true) :
    (source.operand operation syllable long).IsShown := by
  have shown := List.all_eq_true.mp showable _ (source.kind_mem_kinds operation syllable)
  simp only [Bool.and_eq_true, bne_iff_ne, Bool.or_eq_true, Bool.not_eq_true'] at shown
  rw [operand_of_isPresent present]
  refine ⟨shown.1, ?_⟩
  intro unique
  rcases shown.2 with several | zero
  · rw [unique] at several
    cases several
  · exact Quantity.value_of_isZero zero syllable long

/-- If only the last source can be absent, no operand stands behind an absent one. -/
theorem operands_of_sources (sources : List Source)
    (always : ∀ source ∈ sources.dropLast, source.presence.isNone = true) :
    ∃ shown count, sources.map (·.operand operation syllable long) =
        shown ++ List.replicate count .absent ∧
      ∀ operand ∈ shown, ∃ source ∈ sources, source.isPresent syllable = true ∧
        operand = source.operand operation syllable long := by
  induction sources with
  | nil => exact ⟨[], 0, rfl, by simp⟩
  | cons source rest ih =>
    by_cases present : source.isPresent syllable = true
    · have later : ∀ source ∈ rest.dropLast, source.presence.isNone = true := by
        intro other member
        cases rest with
        | nil => cases member
        | cons next rest => exact always other (List.mem_cons_of_mem source member)
      obtain ⟨shown, count, split, from'⟩ := ih later
      refine ⟨source.operand operation syllable long :: shown, count, ?_, ?_⟩
      · rw [List.map_cons, split, List.cons_append]
      · intro operand member
        rcases List.mem_cons.mp member with rfl | inRest
        · exact ⟨source, List.mem_cons_self, present, rfl⟩
        · obtain ⟨other, listed, found⟩ := from' operand inRest
          exact ⟨other, List.mem_cons_of_mem source listed, found⟩
    -- An absent operand is the last one.
    · cases rest with
      | nil =>
        refine ⟨[], 1, ?_, by simp⟩
        rw [List.map_singleton, operand, if_neg present]
        rfl
      | cons next rest =>
        exact absurd (isPresent_of_always (always source List.mem_cons_self)) present

end Source

end Layout

/-! ### The rules -/

namespace Encoding

def sources (encoding : Encoding) : List Source :=
  encoding.format.sources encoding.operation

/-- The first operand can be a branch register. -/
def mayBranch (encoding : Encoding) : Bool :=
  encoding.sources.head?.any fun source => (source.kinds encoding.operation).contains .breg

/-- The first operand is always a branch register. -/
def mustBranch (encoding : Encoding) : Bool :=
  encoding.sources.head?.any fun source =>
    source.presence.isNone && source.kinds encoding.operation == [.breg]

def mayTarget (encoding : Encoding) : Bool :=
  encoding.operation.mnemonic.isTargeted ||
    (encoding.operation.mnemonic == .mov && encoding.mayBranch)

def mustTarget (encoding : Encoding) : Bool :=
  encoding.operation.mnemonic.isTargeted ||
    (encoding.operation.mnemonic == .mov && encoding.mustBranch)

/-- Displacements occur where a target is certain, immediates where there is none. -/
def separatesNumbers (encoding : Encoding) : Bool :=
  encoding.sources.all fun source => (source.kinds encoding.operation).all fun kind =>
    (kind != .disp || encoding.mustTarget) && (kind != .imm || !encoding.mayTarget)

def isShowable (encoding : Encoding) : Bool :=
  encoding.sources.all (·.isShowable encoding.operation)

/-- `acq` can only be the first completer. -/
def acquiresFirst (encoding : Encoding) : Bool :=
  encoding.operation.assembly.completers.tail.all (·.form != .acq) &&
    encoding.format.hints.all fun hint => !hint.forms.contains .acq

/-- Only a branch predict has no predicate. -/
def tellsPredicate (encoding : Encoding) : Bool :=
  encoding.format.isPredicated == (encoding.operation.mnemonic != .brp)

def isListable (encoding : Encoding) : Bool :=
  encoding.tellsPredicate && encoding.acquiresFirst && encoding.isShowable &&
    encoding.separatesNumbers

theorem isListable_of_lookup? {unit : ExecutionUnit} {syllable : Word} {encoding : Encoding}
    (found : OpcodeSpace.lookup? unit syllable = some encoding) : encoding.isListable = true := by
  refine OpcodeSpace.of_lookup? (fun _ encoding => encoding.isListable = true) ?_ found
  intro unit
  cases unit <;> decide +kernel

end Encoding

theorem Format.presence_of_sources (format : Format) (operation : Operation) :
    ∀ source ∈ (format.sources operation).dropLast, source.presence.isNone = true := by
  refine Format.of_sources (fun _ sources => ∀ source ∈ sources.dropLast,
    source.presence.isNone = true) ?_ format operation
  intro format
  cases format <;> decide

/-! ### Records -/

theorem Format.toList_operands (format : Format) (operation : Operation) (syllable long : Word) :
    (format.operands operation syllable long).toList =
      (format.operandSources operation).map (·.operand operation syllable long) ++
        List.replicate (7 - (format.operandSources operation).length) .absent := by
  have few := format.length_operandSources_le operation
  apply List.ext_getElem
  · simp only [Vector.length_toList, List.length_append, List.length_map, List.length_replicate]
    omega
  · intro position room _
    rw [Vector.length_toList] at room
    rw [Vector.getElem_toList, getElem_operands _ _ _ _ room, List.getElem_append]
    split
    next inside =>
      rw [List.length_map] at inside
      rw [List.getElem?_eq_getElem inside, List.getElem_map]
      rfl
    next outside =>
      rw [List.length_map] at outside
      rw [List.getElem?_eq_none (by omega), List.getElem_replicate]
      rfl

section Record

variable {unit : ExecutionUnit} {syllable : Word} {encoding : Encoding} {long : Option Word}

/-- The record of a matched syllable. -/
def Encoding.record (encoding : Encoding) (syllable : Word) (long : Option Word) : Instruction :=
  .reading encoding.operation encoding.format syllable long

theorem Encoding.operands_record (encoding : Encoding) (syllable : Word) (long : Option Word) :
    ∃ shown count, (encoding.record syllable long).operands.toList.tail =
        shown ++ List.replicate count .absent ∧
      ∀ operand ∈ shown, ∃ source ∈ encoding.sources, source.isPresent syllable = true ∧
        operand = source.operand encoding.operation syllable (long.getD 0) := by
  obtain ⟨shown, count, split, from'⟩ := Source.operands_of_sources encoding.sources
    (encoding.format.presence_of_sources encoding.operation)
  refine ⟨shown, count + (7 - (encoding.format.operandSources encoding.operation).length), ?_,
    from'⟩
  rw [← List.replicate_append_replicate, ← List.append_assoc, ← split]
  exact congrArg List.tail (Format.toList_operands ..)

/-- An operand of the record that is not absent. -/
theorem Encoding.exists_source (encoding : Encoding) {operand : Operand}
    (member : operand ∈ (encoding.record syllable long).operands.toList.tail)
    (shown : operand.kind ≠ .none) :
    ∃ source ∈ encoding.sources, operand.kind ∈ source.kinds encoding.operation := by
  obtain ⟨operands, count, split, from'⟩ := encoding.operands_record syllable long
  rw [split] at member
  rcases List.mem_append.mp member with listed | absent
  · obtain ⟨source, inSources, present, rfl⟩ := from' operand listed
    rw [Source.operand_of_isPresent present]
    exact ⟨source, inSources, source.kind_mem_kinds encoding.operation syllable⟩
  · rw [List.eq_of_mem_replicate absent] at shown
    exact absurd rfl shown

theorem Encoding.first_operand_record (encoding : Encoding) (syllable : Word)
    (long : Option Word) : (encoding.record syllable long).firstOperand =
      (encoding.sources.head?.map
        (·.operand encoding.operation syllable (long.getD 0))).getD .absent := by
  rw [List.head?_eq_getElem?]
  exact Format.getElem_operands ..

theorem Encoding.isTargeted_of_mustTarget (must : encoding.mustTarget = true) :
    (encoding.record syllable long).IsTargeted := by
  rw [mustTarget, Bool.or_eq_true, Bool.and_eq_true, beq_iff_eq] at must
  rcases must with byMnemonic | ⟨move, branch⟩
  · exact .inl byMnemonic
  · refine .inr ⟨move, ?_⟩
    obtain ⟨source, first, branches⟩ := (Option.any_eq_true _ _).mp branch
    rw [Bool.and_eq_true, beq_iff_eq] at branches
    have kind := source.kind_mem_kinds encoding.operation syllable
    rw [branches.2] at kind
    rw [first_operand_record, first]
    simpa [Source.operand_of_isPresent (Source.isPresent_of_always branches.1)] using kind

theorem Encoding.mayTarget_of_isTargeted
    (targeted : (encoding.record syllable long).IsTargeted) : encoding.mayTarget = true := by
  rw [mayTarget, Bool.or_eq_true, Bool.and_eq_true, beq_iff_eq]
  rcases targeted with byMnemonic | ⟨move, branch⟩
  · exact .inl byMnemonic
  · refine .inr ⟨move, ?_⟩
    rw [first_operand_record] at branch
    rw [mayBranch]
    cases first : encoding.sources.head? with
    | none =>
      rw [first] at branch
      cases branch
    | some source =>
      rw [first, Option.map_some, Option.getD_some] at branch
      have kind := source.kind_mem_kinds encoding.operation syllable
      by_cases present : source.isPresent syllable = true
      · rw [Source.operand_of_isPresent present] at branch
        rw [show source.rule.kind syllable encoding.operation = .breg from branch] at kind
        simpa using kind
      · rw [Source.operand, if_neg present] at branch
        cases branch

theorem Encoding.predicate_record (tells : encoding.tellsPredicate = true) :
    let record := encoding.record syllable long
    (record.mnemonic = .brp ∧ record.predicate = .absent) ∨
      (record.mnemonic ≠ .brp ∧ record.predicate.kind = .preg) := by
  have first : (encoding.record syllable long).predicate =
      (if encoding.format.isPredicated then Source.predicate 0
        else Source.unique (.always .none)).operand encoding.operation syllable (long.getD 0) :=
    Format.getElem_operands ..
  dsimp only
  rw [first]
  rw [tellsPredicate, beq_iff_eq] at tells
  by_cases predict : encoding.operation.mnemonic = .brp
  · rw [tells, if_neg (by simp [predict])]
    exact .inl ⟨predict, rfl⟩
  · rw [tells, if_pos (by simp [predict])]
    exact .inr ⟨predict, rfl⟩

theorem Layout.Hint.form_completer {hint : Hint} (free : hint.forms.contains .acq = false)
    (syllable : Word) : (hint.completer syllable).form ≠ .acq := by
  intro acq
  rw [Hint.completer, List.getD_eq_getElem?_getD] at acq
  cases chosen : hint.forms[BitField.gather syllable hint.fields]? with
  | none =>
    rw [chosen] at acq
    cases acq
  | some form =>
    rw [chosen, Option.getD_some] at acq
    obtain rfl : form = .acq := acq
    have member := List.mem_of_getElem? chosen
    rw [← List.contains_iff_mem, free] at member
    cases member

theorem Encoding.acquires_record (first : encoding.acquiresFirst = true) :
    .acq ∉ (encoding.record syllable long).shownForms.tail := by
  rw [acquiresFirst, Bool.and_eq_true] at first
  obtain ⟨chosen, hinted⟩ := first
  have later : ∀ completer ∈ (encoding.record syllable long).completers.tail,
      completer.form ≠ .acq := by
    have hints : ∀ completer ∈ encoding.format.hints.map (·.completer syllable),
        completer.form ≠ .acq := by
      intro completer member
      obtain ⟨hint, listed, rfl⟩ := List.mem_map.mp member
      have free := List.all_eq_true.mp hinted hint listed
      rw [Bool.not_eq_true'] at free
      exact Hint.form_completer free syllable
    intro completer member
    change completer ∈ (encoding.operation.assembly.completers ++
      encoding.format.hints.map (·.completer syllable)).tail at member
    -- Behind the first completer stand the opcode's second one and those of the hints.
    cases list : encoding.operation.assembly.completers with
    | nil =>
      rw [list, List.nil_append] at member
      exact hints completer (List.mem_of_mem_tail member)
    | cons opcode rest =>
      rw [list, List.cons_append, List.tail_cons] at member
      rcases List.mem_append.mp member with inRest | inHints
      · have other := List.all_eq_true.mp chosen completer (by rw [list]; exact inRest)
        exact bne_iff_ne.mp other
      · exact hints completer inHints
  intro member
  rw [Instruction.shownForms, ← List.map_tail] at member
  obtain ⟨completer, listed, form⟩ := List.mem_map.mp member
  -- The first listed completer may stand behind default ones, so its tail is part of their tail.
  have sublist (completers : List Completer) (p : Completer → Bool) :
      (completers.filter p).tail.Sublist completers.tail := by
    cases completers with
    | nil => exact .refl _
    | cons completer rest =>
      rw [List.filter_cons]
      split
      · exact List.filter_sublist
      · exact (List.tail_sublist _).trans List.filter_sublist
  exact later completer ((sublist _ _).subset listed) form

theorem Encoding.isListable_record (found : OpcodeSpace.lookup? unit syllable = some encoding)
    (long : Option Word) : (encoding.record syllable long).IsListable := by
  have listable := isListable_of_lookup? found
  simp only [isListable, Bool.and_eq_true] at listable
  obtain ⟨⟨⟨tells, acquires⟩, showable⟩, separates⟩ := listable
  -- What the check of the rule says of each kind that a source can have.
  have numbers (source : Source) (member : source ∈ encoding.sources) (kind : OperandKind)
      (listed : kind ∈ source.kinds encoding.operation) :
      (kind = .disp → encoding.mustTarget = true) ∧
        (kind = .imm → encoding.mayTarget = false) := by
    have separate := List.all_eq_true.mp (List.all_eq_true.mp separates source member) kind listed
    simp only [Bool.and_eq_true, Bool.or_eq_true, bne_iff_ne, Bool.not_eq_true'] at separate
    exact ⟨fun disp => separate.1.resolve_left (not_not.mpr disp),
      fun imm => separate.2.resolve_left (not_not.mpr imm)⟩
  constructor
  case predicate => exact predicate_record tells
  case acquires => exact acquires_record acquires
  case operands =>
    obtain ⟨shown, count, split, from'⟩ := encoding.operands_record syllable long
    refine ⟨shown, count, ?_, split⟩
    intro operand member
    obtain ⟨source, listed, present, rfl⟩ := from' operand member
    exact Source.isShown_operand (List.all_eq_true.mp showable source listed) present
  case displaces =>
    intro operand member disp
    obtain ⟨source, listed, kind⟩ := encoding.exists_source member (by simp [disp])
    exact isTargeted_of_mustTarget ((numbers source listed _ kind).1 disp)
  case immediates =>
    intro operand member imm targeted
    obtain ⟨source, listed, kind⟩ := encoding.exists_source member (by simp [imm])
    have never := (numbers source listed _ kind).2 imm
    rw [mayTarget_of_isTargeted targeted] at never
    cases never

end Record

/-! ### Bundles -/

namespace Bundle

theorem mem_slots_of_mem_instructions {bundle : Bundle} {index : Nat} {instruction : Instruction}
    (listed : (index, instruction) ∈ bundle.instructions) :
    ∃ slot : Fin 3, bundle.slots.get slot = .decoded instruction := by
  obtain ⟨⟨recorded, position⟩, member, shown⟩ := List.mem_filterMap.mp listed
  obtain ⟨inside, found⟩ := List.getElem?_eq_some_iff.mp (List.mem_zipIdx_iff_getElem?.mp member)
  rw [Vector.length_toList] at inside
  refine ⟨⟨position, inside⟩, ?_⟩
  rw [Vector.getElem_toList] at found
  cases recorded with
  | longHalf bits => cases shown
  | decoded other =>
    cases shown
    exact found

/-- Every instruction of a bundle that decodes is listable. -/
theorem isListable_of_decode {raw : BitVec 128} {bundle : Bundle}
    (decodes : decode raw = .ok bundle) {index : Nat} {instruction : Instruction}
    (listed : (index, instruction) ∈ bundle.instructions) : instruction.IsListable := by
  obtain ⟨slot, recorded⟩ := mem_slots_of_mem_instructions listed
  obtain ⟨encoding, found, rfl⟩ := exists_reading_of_decode decodes recorded
  exact Encoding.isListable_record found _

/-- Instructions with one text at one address agree in everything that the text can show: their
mnemonics, the forms of their completers other than `none`, and their operands. -/
theorem instruction_eq_of_listing_eq {leftRaw rightRaw : BitVec 128}
    {leftBundle rightBundle : Bundle} {leftIndex rightIndex : Nat} {left right : Instruction}
    (leftDecodes : decode leftRaw = .ok leftBundle)
    (rightDecodes : decode rightRaw = .ok rightBundle)
    (leftListed : (leftIndex, left) ∈ leftBundle.instructions)
    (rightListed : (rightIndex, right) ∈ rightBundle.instructions)
    (address : Word) (equal : left.text address = right.text address) :
    left.mnemonic = right.mnemonic ∧
      (left.completers.map Completer.form).filter (· ≠ .none) =
        (right.completers.map Completer.form).filter (· ≠ .none) ∧
      left.operands = right.operands := by
  obtain ⟨mnemonics, forms, operands⟩ :=
    Instruction.eq_of_text_eq (isListable_of_decode leftDecodes leftListed)
      (isListable_of_decode rightDecodes rightListed) equal
  refine ⟨mnemonics, ?_, operands⟩
  rw [List.filter_map, List.filter_map]
  exact forms

/-- Two bundles whose `nop.f` differ in bit 36, which the operand leaves out. -/
theorem instruction_eq_of_listing_eq_nops :
    ∃ leftBundle rightBundle left right,
      decode 0x4000000000200000000010000000C = .ok leftBundle ∧
      decode 0x4000000040200000000010000000C = .ok rightBundle ∧
      (1, left) ∈ leftBundle.instructions ∧ (1, right) ∈ rightBundle.instructions ∧
      left.bits ≠ right.bits ∧ left.text 0x1000 = right.text 0x1000 ∧
      left.mnemonic = right.mnemonic ∧
        (left.completers.map Completer.form).filter (· ≠ .none) =
          (right.completers.map Completer.form).filter (· ≠ .none) ∧
        left.operands = right.operands := by
  have leftDecodes : decode 0x4000000000200000000010000000C = .ok ⟨.mfi, #v[
      .decoded (.reading .nopM .m48 0x8000000 none), .decoded (.reading .nopF .f16 0x8000000 none),
      .decoded (.reading .nopI .i18 0x8000000 none)]⟩ := by decide
  have rightDecodes : decode 0x4000000040200000000010000000C = .ok ⟨.mfi, #v[
      .decoded (.reading .nopM .m48 0x8000000 none),
      .decoded (.reading .nopF .f16 0x1008000000 none),
      .decoded (.reading .nopI .i18 0x8000000 none)]⟩ := by decide
  refine ⟨_, _, .reading .nopF .f16 0x8000000 none, .reading .nopF .f16 0x1008000000 none,
    leftDecodes, rightDecodes, ?_, ?_, by decide, rfl, ?_⟩
  · exact List.mem_cons_of_mem _ List.mem_cons_self
  · exact List.mem_cons_of_mem _ List.mem_cons_self
  · exact instruction_eq_of_listing_eq leftDecodes rightDecodes
      (List.mem_cons_of_mem _ List.mem_cons_self) (List.mem_cons_of_mem _ List.mem_cons_self)
      0x1000 rfl

end Bundle

end Itanium
