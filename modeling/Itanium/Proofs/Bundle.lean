import Itanium.Proofs.Extraction
import Itanium.Proofs.Walk

/-!
# Which bundles decode

`Bundle.Decodes` says what a bundle decodes to, slot by slot and without the order in which slots
are read: a reserved selector is refused, a bundle is accepted if each of its slots is, and
otherwise the lowest slot that is refused gives the reason. `decode_eq_iff` says that decoding
computes this judgment. Each bundle has one judgment, so acceptance and rejection are both decided
by it.
-/
namespace Itanium

/-! ### The judgment -/

/-- The selectors without a template. -/
def Template.reservedSelectors : List Nat := [0x06, 0x07, 0x14, 0x15, 0x1A, 0x1B, 0x1E, 0x1F]

/-- The syllable sets a field that the format reserves. -/
inductive Format.Violates (syllable : Word) : Format → Prop
  | a7 (set : syllable.extractLsb' 13 7 ≠ 0) : Violates syllable .a7
  | i9 (set : syllable.extractLsb' 13 7 ≠ 0) : Violates syllable .i9
  | b2 (set : syllable.extractLsb' 0 6 ≠ 0) : Violates syllable .b2
  | m25 (set : syllable.extractLsb' 0 6 ≠ 0) : Violates syllable .m25
  | i21 (set : syllable.extractLsb' 20 2 = 3) : Violates syllable .i21

namespace Bundle

/-- The 41 bits of a slot, slot 0 above the five bits of the selector. -/
def slotBits (raw : BitVec 128) (slot : Nat) : Word :=
  (raw.extractLsb' (5 + 41 * slot) 41).setWidth 64

/-- The syllable that completes a long immediate, for the X unit only. -/
def pairedBits (unit : ExecutionUnit) (raw : BitVec 128) : Option Word :=
  if unit = .x then some (slotBits raw 1) else none

def Accepts (template : Template) (raw : BitVec 128) (slot : Fin 3) : Prop :=
  template.units.get slot = .l ∨ ∃ encoding : Encoding,
    OpcodeSpace.lookup? (template.units.get slot) (slotBits raw slot) = some encoding ∧
      ¬encoding.format.Violates (slotBits raw slot)

/-- What an accepted slot is recorded as. -/
inductive Records (template : Template) (raw : BitVec 128) (slot : Fin 3) : Slot → Prop
  | longHalf (unit : template.units.get slot = .l) :
      Records template raw slot (.longHalf (slotBits raw slot))
  | decoded {encoding : Encoding} {instruction : Instruction} (unit : template.units.get slot ≠ .l)
      (found : OpcodeSpace.lookup? (template.units.get slot) (slotBits raw slot) = some encoding)
      (extracted : extract encoding.operation encoding.format (slotBits raw slot)
        (pairedBits (template.units.get slot) raw) = .ok instruction) :
      Records template raw slot (.decoded instruction)

inductive Refuses (template : Template) (raw : BitVec 128) (slot : Fin 3) : Rejection → Prop
  | noMatch (unit : template.units.get slot ≠ .l)
      (unmatched : OpcodeSpace.lookup? (template.units.get slot) (slotBits raw slot) = none) :
      Refuses template raw slot (.noMatch slot (template.units.get slot) (slotBits raw slot))
  | reservedField {encoding : Encoding} (unit : template.units.get slot ≠ .l)
      (found : OpcodeSpace.lookup? (template.units.get slot) (slotBits raw slot) = some encoding)
      (violated : encoding.format.Violates (slotBits raw slot)) :
      Refuses template raw slot (.unreadable slot encoding.format .reservedField)

inductive Decodes (raw : BitVec 128) : Except Rejection Bundle → Prop
  | reservedTemplate (reserved : raw.toNat % 32 ∈ Template.reservedSelectors) :
      Decodes raw (.error (.reservedTemplate (raw.toNat % 32)))
  | accepted {template : Template} {slots : Vector Slot 3}
      (assigned : template.selector = raw.toNat % 32)
      (accepts : ∀ slot, Accepts template raw slot)
      (records : ∀ slot : Fin 3, Records template raw slot (slots.get slot)) :
      Decodes raw (.ok ⟨template, slots⟩)
  | rejected {template : Template} {slot : Fin 3} {reason : Rejection}
      (assigned : template.selector = raw.toNat % 32)
      (before : ∀ earlier < slot, Accepts template raw earlier)
      (refuses : Refuses template raw slot reason) :
      Decodes raw (.error reason)

end Bundle

/-! ### Reserved fields and selectors -/

private theorem clear_iff (offset width : Nat) (syllable : Word) :
    [⟨⟨offset, width⟩, [0]⟩].all (Layout.Reserved.admits · syllable) = true ↔
      syllable.extractLsb' offset width = 0 := by
  simp [Layout.Reserved.admits, BitField.read_eq_extract, BitVec.toNat_eq]

private theorem allowed_iff (syllable : Word) :
    [⟨⟨20, 2⟩, [0, 1, 2]⟩].all (Layout.Reserved.admits · syllable) = true ↔
      syllable.extractLsb' 20 2 ≠ 3 := by
  have bound := (syllable.extractLsb' 20 2).isLt
  have three : (3 : BitVec 2).toNat = 3 := rfl
  simp only [Layout.Reserved.admits, List.all_cons, List.all_nil, Bool.and_true,
    List.contains_iff_mem, BitField.read_eq_extract, ne_eq, BitVec.toNat_eq, three,
    List.mem_cons, List.not_mem_nil, or_false]
  omega

/-- The codes that a format's fields may hold are those that violate nothing. -/
theorem Format.reserved_admits_iff (format : Format) (syllable : Word) :
    format.reserved.all (·.admits syllable) = true ↔ ¬format.Violates syllable := by
  constructor
  · intro admitted violated
    cases violated with
    | a7 set => exact set ((clear_iff 13 7 syllable).mp admitted)
    | i9 set => exact set ((clear_iff 13 7 syllable).mp admitted)
    | b2 set => exact set ((clear_iff 0 6 syllable).mp admitted)
    | m25 set => exact set ((clear_iff 0 6 syllable).mp admitted)
    | i21 set => exact (allowed_iff syllable).mp admitted set
  · intro unviolated
    cases format
    case a7 => exact (clear_iff 13 7 syllable).mpr (not_not.mp fun set => unviolated (.a7 set))
    case i9 => exact (clear_iff 13 7 syllable).mpr (not_not.mp fun set => unviolated (.i9 set))
    case b2 => exact (clear_iff 0 6 syllable).mpr (not_not.mp fun set => unviolated (.b2 set))
    case m25 => exact (clear_iff 0 6 syllable).mpr (not_not.mp fun set => unviolated (.m25 set))
    case i21 => exact (allowed_iff syllable).mpr fun set => unviolated (.i21 set)
    all_goals rfl

theorem Template.ofSelector?_eq_none_iff {selector : Nat} (bound : selector < 32) :
    Template.ofSelector? selector = none ↔ selector ∈ Template.reservedSelectors := by
  have checked : ∀ selector < 32,
      Template.ofSelector? selector = none ↔ selector ∈ Template.reservedSelectors := by decide
  exact checked selector bound

theorem Template.ofSelector?_eq_some_iff {selector : Nat} {template : Template} :
    Template.ofSelector? selector = some template ↔ template.selector = selector := by
  constructor
  · intro found
    simpa using List.find?_some found
  · rintro rfl
    cases template <;> rfl

namespace Bundle

theorem syllable_eq_slotBits (raw : BitVec 128) (slot : Nat) :
    RawBundle.syllable raw slot = slotBits raw slot := by
  apply BitVec.eq_of_toNat_eq
  simp [RawBundle.syllable, slotBits]

theorem isSome_pairedBits (raw : BitVec 128) {unit : ExecutionUnit} (long : unit = .x) :
    (pairedBits unit raw).isSome = true := by
  rw [pairedBits, if_pos long]
  rfl

/-! ### One slot -/

section Slots

variable {template : Template} {raw : BitVec 128} {slot : Fin 3}

theorem decodeSlot_of_long (unit : template.units.get slot = .l) :
    decodeSlot template raw slot = .ok (.longHalf (slotBits raw slot)) := by
  rw [decodeSlot, decodeUnit, Fin.getElem_fin, ← Vector.get_eq_getElem, if_pos unit,
    syllable_eq_slotBits]

theorem decodeSlot_of_unmatched (unit : template.units.get slot ≠ .l)
    (unmatched : OpcodeSpace.lookup? (template.units.get slot) (slotBits raw slot) = none) :
    decodeSlot template raw slot =
      .error (.noMatch slot (template.units.get slot) (slotBits raw slot)) := by
  rw [decodeSlot, decodeUnit, Fin.getElem_fin, ← Vector.get_eq_getElem, if_neg unit,
    syllable_eq_slotBits, unmatched]

section Matched

variable {encoding : Encoding} (unit : template.units.get slot ≠ .l)
  (found : OpcodeSpace.lookup? (template.units.get slot) (slotBits raw slot) = some encoding)

include unit found

theorem decodeSlot_of_extracted {instruction : Instruction}
    (extracted : extract encoding.operation encoding.format (slotBits raw slot)
      (pairedBits (template.units.get slot) raw) = .ok instruction) :
    decodeSlot template raw slot = .ok (.decoded instruction) := by
  rw [pairedBits] at extracted
  simp only [decodeSlot, decodeUnit, Fin.getElem_fin, ← Vector.get_eq_getElem, if_neg unit,
    syllable_eq_slotBits, found, extracted]

theorem decodeSlot_of_unreadable {error : ExtractionError}
    (refused : extract encoding.operation encoding.format (slotBits raw slot)
      (pairedBits (template.units.get slot) raw) = .error error) :
    decodeSlot template raw slot = .error (.unreadable slot encoding.format error) := by
  rw [pairedBits] at refused
  simp only [decodeSlot, decodeUnit, Fin.getElem_fin, ← Vector.get_eq_getElem, if_neg unit,
    syllable_eq_slotBits, found, refused]

end Matched

/-- A matched syllable is extracted unless it sets a reserved field. -/
theorem extract_of_matched {encoding : Encoding}
    (found : OpcodeSpace.lookup? (template.units.get slot) (slotBits raw slot) = some encoding) :
    (¬encoding.format.Violates (slotBits raw slot) ∧ ∃ instruction,
      extract encoding.operation encoding.format (slotBits raw slot)
        (pairedBits (template.units.get slot) raw) = .ok instruction) ∨
    (encoding.format.Violates (slotBits raw slot) ∧
      extract encoding.operation encoding.format (slotBits raw slot)
        (pairedBits (template.units.get slot) raw) = .error .reservedField) := by
  have outcome := extract_of_lookup? found (isSome_pairedBits raw)
  have unreserved := encoding.format.reserved_admits_iff (slotBits raw slot)
  by_cases violated : encoding.format.Violates (slotBits raw slot)
  · rw [if_neg fun admitted => unreserved.mp admitted violated] at outcome
    exact .inr ⟨violated, outcome⟩
  · rw [if_pos (unreserved.mpr violated)] at outcome
    exact .inl ⟨violated, _, outcome⟩

/-- A slot is accepted and recorded, or refused. -/
theorem decodeSlot_outcome (template : Template) (raw : BitVec 128) (slot : Fin 3) :
    (∃ recorded, decodeSlot template raw slot = .ok recorded ∧
      Accepts template raw slot ∧ Records template raw slot recorded) ∨
    ∃ reason, decodeSlot template raw slot = .error reason ∧
      Refuses template raw slot reason := by
  by_cases unit : template.units.get slot = .l
  · exact .inl ⟨_, decodeSlot_of_long unit, .inl unit, .longHalf unit⟩
  · cases found : OpcodeSpace.lookup? (template.units.get slot) (slotBits raw slot) with
    | none => exact .inr ⟨_, decodeSlot_of_unmatched unit found, .noMatch unit found⟩
    | some encoding =>
      rcases extract_of_matched found with
        ⟨unviolated, instruction, extracted⟩ | ⟨violated, refused⟩
      · exact .inl ⟨_, decodeSlot_of_extracted unit found extracted,
          .inr ⟨encoding, found, unviolated⟩, .decoded unit found extracted⟩
      · exact .inr ⟨_, decodeSlot_of_unreadable unit found refused,
          .reservedField unit found violated⟩

theorem decodeSlot_of_records {recorded : Slot} (records : Records template raw slot recorded) :
    decodeSlot template raw slot = .ok recorded := by
  cases records with
  | longHalf unit => exact decodeSlot_of_long unit
  | decoded unit found extracted => exact decodeSlot_of_extracted unit found extracted

theorem decodeSlot_of_refuses {reason : Rejection} (refuses : Refuses template raw slot reason) :
    decodeSlot template raw slot = .error reason := by
  cases refuses with
  | noMatch unit unmatched => exact decodeSlot_of_unmatched unit unmatched
  | reservedField unit found violated =>
    rcases extract_of_matched found with ⟨unviolated, _⟩ | ⟨_, refused⟩
    · exact absurd violated unviolated
    · exact decodeSlot_of_unreadable unit found refused

theorem not_accepts_of_refuses {reason : Rejection} (refuses : Refuses template raw slot reason) :
    ¬Accepts template raw slot := by
  cases refuses with
  | noMatch unit unmatched =>
    rintro (long | ⟨encoding, found, _⟩)
    · exact unit long
    · cases unmatched.symm.trans found
  | reservedField unit found violated =>
    rintro (long | ⟨encoding, found', unviolated⟩)
    · exact unit long
    · cases found.symm.trans found'
      exact unviolated violated

theorem exists_decodeSlot_of_accepts (accepts : Accepts template raw slot) :
    ∃ recorded, decodeSlot template raw slot = .ok recorded := by
  rcases decodeSlot_outcome template raw slot with ⟨recorded, accepted, _⟩ | ⟨_, _, refuses⟩
  · exact ⟨recorded, accepted⟩
  · exact absurd accepts (not_accepts_of_refuses refuses)

end Slots

/-! ### The whole bundle -/

theorem decodes_decode (raw : BitVec 128) : Decodes raw (decode raw) := by
  rw [decode_eq_decodeSlots]
  cases assigned : Template.ofSelector? (RawBundle.selector raw) with
  | none =>
    have bound : RawBundle.selector raw < 32 := Nat.mod_lt _ (by decide)
    exact .reservedTemplate ((Template.ofSelector?_eq_none_iff bound).mp assigned)
  | some template =>
    have selector := Template.ofSelector?_eq_some_iff.mp assigned
    -- The slots are read in order, so at a refusal the slots before have been accepted.
    rcases decodeSlot_outcome template raw 0 with ⟨first, read₀, accepts₀, records₀⟩ | refused
    · rcases decodeSlot_outcome template raw 1 with ⟨second, read₁, accepts₁, records₁⟩ | refused
      · rcases decodeSlot_outcome template raw 2 with ⟨third, read₂, accepts₂, records₂⟩ | refused
        · simp only [read₀, read₁, read₂, bind, Except.bind]
          exact .accepted selector (fun | 0 => accepts₀ | 1 => accepts₁ | 2 => accepts₂)
            (fun | 0 => records₀ | 1 => records₁ | 2 => records₂)
        · obtain ⟨reason, read₂, refuses⟩ := refused
          simp only [read₀, read₁, read₂, bind, Except.bind]
          refine .rejected selector ?_ refuses
          intro earlier before
          have cases : earlier = 0 ∨ earlier = 1 := by omega
          rcases cases with rfl | rfl
          · exact accepts₀
          · exact accepts₁
      · obtain ⟨reason, read₁, refuses⟩ := refused
        simp only [read₀, read₁, bind, Except.bind]
        refine .rejected selector ?_ refuses
        intro earlier before
        obtain rfl : earlier = 0 := by omega
        exact accepts₀
    · obtain ⟨reason, read₀, refuses⟩ := refused
      simp only [read₀, bind, Except.bind]
      exact .rejected selector (by omega) refuses

theorem decodes_of_decode {raw : BitVec 128} {result : Except Rejection Bundle}
    (decoded : decode raw = result) : Decodes raw result := by
  rw [← decoded]
  exact decodes_decode raw

theorem decode_of_decodes {raw : BitVec 128} {result : Except Rejection Bundle}
    (decodes : Decodes raw result) : decode raw = result := by
  rw [decode_eq_decodeSlots]
  cases decodes with
  | reservedTemplate reserved =>
    have bound : RawBundle.selector raw < 32 := Nat.mod_lt _ (by decide)
    rw [(Template.ofSelector?_eq_none_iff bound).mpr reserved]
    rfl
  | @accepted template slots assigned accepts records =>
    rw [RawBundle.selector, Template.ofSelector?_eq_some_iff.mpr assigned]
    simp only [decodeSlot_of_records (records 0), decodeSlot_of_records (records 1),
      decodeSlot_of_records (records 2), bind, Except.bind, pure, Except.pure]
    have whole : #v[slots[0], slots[1], slots[2]] = slots := by
      ext slot bound
      match slot, bound with
      | 0, _ | 1, _ | 2, _ => rfl
    exact congrArg (fun slots => Except.ok (Bundle.mk template slots)) whole
  | @rejected template slot reason assigned before refuses =>
    rw [RawBundle.selector, Template.ofSelector?_eq_some_iff.mpr assigned]
    -- The slots before are read without a refusal, so this one's is the first.
    have position : slot = 0 ∨ slot = 1 ∨ slot = 2 := by omega
    rcases position with rfl | rfl | rfl
    · simp only [decodeSlot_of_refuses refuses, bind, Except.bind]
    · obtain ⟨first, read₀⟩ := exists_decodeSlot_of_accepts (before 0 (by decide))
      simp only [read₀, decodeSlot_of_refuses refuses, bind, Except.bind]
    · obtain ⟨first, read₀⟩ := exists_decodeSlot_of_accepts (before 0 (by decide))
      obtain ⟨second, read₁⟩ := exists_decodeSlot_of_accepts (before 1 (by decide))
      simp only [read₀, read₁, decodeSlot_of_refuses refuses, bind, Except.bind]

/-- Decoding computes the judgment. -/
theorem decode_eq_iff (raw : BitVec 128) (result : Except Rejection Bundle) :
    decode raw = result ↔ Decodes raw result := by
  constructor
  · rintro rfl
    exact decodes_decode raw
  · exact decode_of_decodes

/-- Every letter of a name is the letter of a unit. -/
theorem decode_ne_badLetter (raw : BitVec 128) (letter : Char) :
    decode raw ≠ .error (.badLetter letter) := by
  intro refused
  cases decodes_of_decode refused with
  | rejected _ _ refuses => cases refuses

/-- An L unit stands in slot 1 only. -/
theorem decode_ne_misplacedLong (raw : BitVec 128) (slot : Nat) :
    decode raw ≠ .error (.misplacedLong slot) := by
  intro refused
  cases decodes_of_decode refused with
  | rejected _ _ refuses => cases refuses

/-! ### What is recorded -/

section Decoded

variable {raw : BitVec 128} {bundle : Bundle} (decodes : decode raw = .ok bundle)

include decodes

theorem selector_of_decode : bundle.template.selector = raw.toNat % 32 := by
  cases decodes_of_decode decodes with
  | accepted assigned => exact assigned

theorem records_of_decode (slot : Fin 3) :
    Records bundle.template raw slot (bundle.slots.get slot) := by
  cases decodes_of_decode decodes with
  | accepted _ _ records => exact records slot

/-- An instruction of a bundle that decodes is what the syllable of its slot is read as. -/
theorem exists_reading_of_decode {slot : Fin 3} {instruction : Instruction}
    (recorded : bundle.slots.get slot = .decoded instruction) :
    ∃ encoding : Encoding,
      OpcodeSpace.lookup? (bundle.template.units.get slot) (slotBits raw slot) = some encoding ∧
        instruction = .reading encoding.operation encoding.format (slotBits raw slot)
          (pairedBits (bundle.template.units.get slot) raw) := by
  have record := records_of_decode decodes slot
  rw [recorded] at record
  cases record with
  | decoded unit found extracted => exact ⟨_, found, (extract_eq_ok_iff.mp extracted).2.2.2⟩

/-- A slot that executes something has an instruction. -/
theorem exists_instruction_of_decode {slot : Fin 3}
    (unit : bundle.template.units.get slot ≠ .l) :
    ∃ instruction, bundle.slots.get slot = .decoded instruction := by
  cases recorded : bundle.slots.get slot with
  | decoded instruction => exact ⟨instruction, rfl⟩
  | longHalf bits =>
    have record := records_of_decode decodes slot
    rw [recorded] at record
    cases record with
    | longHalf long => exact absurd long unit

theorem longHalf_of_decode {slot : Fin 3} (unit : bundle.template.units.get slot = .l) :
    bundle.slots.get slot = .longHalf (slotBits raw slot) := by
  have record := records_of_decode decodes slot
  generalize bundle.slots.get slot = recorded at record ⊢
  cases record with
  | longHalf => rfl
  | decoded short => exact absurd unit short

theorem unit_ne_of_decode {slot : Fin 3} {instruction : Instruction}
    (recorded : bundle.slots.get slot = .decoded instruction) :
    bundle.template.units.get slot ≠ .l := by
  intro unit
  rw [longHalf_of_decode decodes unit] at recorded
  cases recorded

/-- A slot that executes something holds what its syllable is read as. -/
theorem exists_recorded_of_decode {slot : Fin 3} {unit : ExecutionUnit}
    (assigned : bundle.template.units.get slot = unit) (executes : unit ≠ .l) :
    ∃ encoding : Encoding, OpcodeSpace.lookup? unit (slotBits raw slot) = some encoding ∧
      bundle.slots.get slot = .decoded (.reading encoding.operation encoding.format
        (slotBits raw slot) (pairedBits unit raw)) := by
  subst assigned
  obtain ⟨instruction, recorded⟩ := exists_instruction_of_decode decodes executes
  obtain ⟨encoding, found, rfl⟩ := exists_reading_of_decode decodes recorded
  exact ⟨encoding, found, recorded⟩

end Decoded

end Bundle

end Itanium
