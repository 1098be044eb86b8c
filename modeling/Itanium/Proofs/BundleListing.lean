import Itanium.Listing
import Itanium.Proofs.Listing
import Itanium.Proofs.Reassembly

/-!
# A listing identifies its bundle

With units, stops and raw bits a listing shows the template and every syllable but the long half,
which has no line of its own. The long half shows in the immediate of the line behind it, and that
line's operands determine it as far as the format reads it: `brl` ignores its two low bits, all other
formats read the whole.
-/
namespace Itanium

open BitField Layout Text

/-! ### Templates -/

theorem ExecutionUnit.letter_injective : Function.Injective letter := by
  intro left right equal
  revert equal
  cases left <;> cases right <;> decide

namespace Template

/-- Without its stops a name has one letter for each unit. -/
theorem letters_eq (template : Template) :
    template.letters = String.ofList (template.units.toList.map ExecutionUnit.letter) := by
  cases template <;> rfl

theorem units_eq_of_letters_eq {left right : Template} (equal : left.letters = right.letters) :
    left.units = right.units := by
  rw [letters_eq, letters_eq, String.ofList_inj] at equal
  exact Vector.toList_inj.mp (List.map_injective_iff.mpr ExecutionUnit.letter_injective equal)

theorem length_letters (template : Template) : template.letters.toList.length = 3 := by
  rw [letters_eq, String.toList_ofList, List.length_map, Vector.length_toList]

theorem mem_all (template : Template) : template ∈ all := by
  cases template <;> decide

/-- The units, and the stops behind those that execute something, determine the template. -/
theorem eq_of_stopsAfter_eq {left right : Template} (units : left.units = right.units)
    (stops : ∀ slot : Fin 3, left.units.get slot ≠ .l →
      left.stopsAfter slot = right.stopsAfter slot) : left = right := by
  have checked : ∀ left ∈ all, ∀ right ∈ all, left.units = right.units →
      (∀ slot : Fin 3, left.units.get slot ≠ .l →
        left.stopsAfter slot = right.stopsAfter slot) → left = right := by decide
  exact checked left left.mem_all right right.mem_all units stops

end Template

/-! ### The columns of a line -/

namespace Listing

variable {flags : Flags} {address : Word} {first : Bool} {slot : Nat}

theorem length_templateColumn (units : flags.template = true) (template : Template) :
    (templateColumn flags template first).toList.length = 12 := by
  have letters := template.length_letters
  cases first <;>
    simp [templateColumn, units, spaces, String.toList_append, letters]

theorem letters_eq_of_templateColumn_eq (units : flags.template = true) {left right : Template}
    (equal : templateColumn flags left true = templateColumn flags right true) :
    left.letters = right.letters := by
  have columns := congrArg String.toList equal
  simp only [templateColumn, units, Bool.not_true, Bool.false_eq_true, if_false, if_true,
    String.toList_append, List.append_cancel_left_eq, List.append_cancel_right_eq] at columns
  exact String.toList_inj.mp columns

theorem toList_rawColumn (rawBits : flags.rawBits = true) (bits : Word) :
    (rawColumn flags bits).toList = "  // ".toList ++ (Numeral.hex 11 bits.toNat).toList := by
  rw [rawColumn, if_pos rawBits, String.toList_append]

/-- A stop adds no word. -/
theorem words_append_stopMark (text : String) (flags : Flags) (template : Template) (slot : Nat) :
    words (text ++ stopMark flags template slot).toList = words text.toList := by
  rw [String.toList_append]
  apply words_append_gaps
  apply List.all_eq_true.mp
  rw [stopMark]
  split
  · decide
  · rfl

theorem stopsAfter_eq_of_stopMark_eq (stops : flags.stops = true) {left right : Template}
    (equal : stopMark flags left slot = stopMark flags right slot) :
    left.stopsAfter slot = right.stopsAfter slot := by
  rw [stopMark, stopMark, stops, Bool.true_and, Bool.true_and] at equal
  revert equal
  cases left.stopsAfter slot <;> cases right.stopsAfter slot <;> decide

/-- The columns around the text have a fixed width, so equal lines agree in each part. -/
theorem parts_eq_of_line_eq (units : flags.template = true) (rawBits : flags.rawBits = true)
    {leftTemplate rightTemplate : Template} {left right : Instruction}
    (leftBound : left.bits.toNat < 2 ^ 41) (rightBound : right.bits.toNat < 2 ^ 41)
    (equal : line flags leftTemplate address first slot left =
      line flags rightTemplate address first slot right) :
    templateColumn flags leftTemplate first = templateColumn flags rightTemplate first ∧
      left.text address ++ stopMark flags leftTemplate slot =
        right.text address ++ stopMark flags rightTemplate slot ∧
      left.bits = right.bits := by
  have wide : 2 ^ 41 ≤ 16 ^ (10 + 1) := by decide
  have leftLength := Numeral.length_hex (Nat.lt_of_lt_of_le leftBound wide)
  have rightLength := Numeral.length_hex (Nat.lt_of_lt_of_le rightBound wide)
  have characters := congrArg String.toList equal
  simp only [line, String.toList_append, toList_rawColumn rawBits, List.append_assoc,
    List.append_cancel_left_eq] at characters
  obtain ⟨columns, later⟩ := List.append_inj characters (by
    rw [length_templateColumn units, length_templateColumn units])
  simp only [← List.append_assoc] at later
  obtain ⟨marked, numerals⟩ := List.append_inj' later (by rw [leftLength, rightLength])
  refine ⟨String.toList_inj.mp columns, ?_, ?_⟩
  · apply String.toList_inj.mp
    rw [String.toList_append, String.toList_append]
    exact List.append_cancel_right marked
  · exact BitVec.eq_of_toNat_eq (Numeral.hex_inj (Nat.lt_of_lt_of_le leftBound wide)
      (Nat.lt_of_lt_of_le rightBound wide) numerals)

end Listing

/-! ### Bundles -/

namespace Bundle

open Listing

theorem toList_slots (bundle : Bundle) :
    bundle.slots.toList = (List.finRange 3).map bundle.slots.get := by
  apply List.ext_getElem
  · simp
  · intro position inside _
    simp [Vector.get_eq_getElem]

theorem instructions_eq (bundle : Bundle) :
    bundle.instructions = (List.finRange 3).filterMap fun slot =>
      (bundle.slots.get slot).instruction?.map ((slot.val, ·)) := by
  rw [instructions, toList_slots]
  rfl

section Columns

variable {raw : BitVec 128} {bundle : Bundle} (decodes : decode raw = .ok bundle)
  (flags : Flags) (address : Word)

include decodes

theorem lines_of_short (short : ∀ slot, bundle.template.units.get slot ≠ .l) :
    ∃ first second third, bundle.slots.get 0 = .decoded first ∧
      bundle.slots.get 1 = .decoded second ∧ bundle.slots.get 2 = .decoded third ∧
      lines flags bundle address = [line flags bundle.template address true 0 first,
        line flags bundle.template address false 1 second,
        line flags bundle.template address false 2 third] := by
  obtain ⟨first, recorded₀⟩ := exists_instruction_of_decode decodes (short 0)
  obtain ⟨second, recorded₁⟩ := exists_instruction_of_decode decodes (short 1)
  obtain ⟨third, recorded₂⟩ := exists_instruction_of_decode decodes (short 2)
  refine ⟨first, second, third, recorded₀, recorded₁, recorded₂, ?_⟩
  have listed : bundle.instructions = [(0, first), (1, second), (2, third)] := by
    rw [instructions_eq]
    simp [List.finRange_succ, recorded₀, recorded₁, recorded₂, Slot.instruction?]
  rw [lines, listed]
  rfl

theorem lines_of_long (long : bundle.template.units = #v[.m, .l, .x]) :
    ∃ first third, bundle.slots.get 0 = .decoded first ∧ bundle.slots.get 2 = .decoded third ∧
      lines flags bundle address = [line flags bundle.template address true 0 first,
        line flags bundle.template address false 2 third] := by
  obtain ⟨first, recorded₀⟩ := exists_instruction_of_decode decodes
    (show bundle.template.units.get 0 ≠ .l by simp [long])
  have recorded₁ := longHalf_of_decode decodes
    (show bundle.template.units.get 1 = .l by simp [long])
  obtain ⟨third, recorded₂⟩ := exists_instruction_of_decode decodes
    (show bundle.template.units.get 2 ≠ .l by simp [long])
  refine ⟨first, third, recorded₀, recorded₂, ?_⟩
  have listed : bundle.instructions = [(0, first), (2, third)] := by
    rw [instructions_eq]
    simp [List.finRange_succ, recorded₀, recorded₁, recorded₂, Slot.instruction?]
  rw [lines, listed]
  rfl

/-- Slot 0 is listed first. -/
theorem exists_first_line : ∃ first rest, bundle.slots.get 0 = .decoded first ∧
    lines flags bundle address = line flags bundle.template address true 0 first :: rest := by
  rcases bundle.template.units_cases with short | long
  · obtain ⟨first, second, third, recorded, -, -, listed⟩ :=
      lines_of_short decodes flags address short
    exact ⟨first, _, recorded, listed⟩
  · obtain ⟨first, third, recorded, -, listed⟩ := lines_of_long decodes flags address long
    exact ⟨first, _, recorded, listed⟩

end Columns

section Lines

variable {flags : Flags} {address : Word} (units : flags.template = true)
  (stops : flags.stops = true) (rawBits : flags.rawBits = true)
  {leftRaw rightRaw : BitVec 128} {left right : Bundle}
  (leftDecodes : decode leftRaw = .ok left) (rightDecodes : decode rightRaw = .ok right)

include units rawBits leftDecodes rightDecodes

include stops in
/-- For the same units, a line shows the instruction and the stop behind it. -/
theorem instruction_eq_of_line_eq (sameUnits : left.template.units = right.template.units)
    {slot : Fin 3} {first : Bool} {leftShown rightShown : Instruction}
    (leftRecorded : left.slots.get slot = .decoded leftShown)
    (rightRecorded : right.slots.get slot = .decoded rightShown)
    (equal : line flags left.template address first slot leftShown =
      line flags right.template address first slot rightShown) :
    leftShown = rightShown ∧ left.template.stopsAfter slot = right.template.stopsAfter slot := by
  obtain ⟨encoding, found, rfl⟩ := exists_reading_of_decode leftDecodes leftRecorded
  obtain ⟨encoding', found', rfl⟩ := exists_reading_of_decode rightDecodes rightRecorded
  obtain ⟨-, marked, bits⟩ := parts_eq_of_line_eq units rawBits (toNat_slotBits_lt leftRaw slot)
    (toNat_slotBits_lt rightRaw slot) equal
  -- A stop adds no word, so the texts before it have the same words.
  have texts := congrArg (fun text => words text.toList) marked
  simp only [words_append_stopMark] at texts
  have operands := (Instruction.eq_of_words_eq (Encoding.isListable_record found _)
    (Encoding.isListable_record found' _) texts).2.2
  have same : Instruction.reading encoding.operation encoding.format (slotBits leftRaw slot)
      (pairedBits (left.template.units.get slot) leftRaw) =
    .reading encoding'.operation encoding'.format (slotBits rightRaw slot)
      (pairedBits (right.template.units.get slot) rightRaw) := by
    have syllables : slotBits leftRaw slot = slotBits rightRaw slot := bits
    rw [← syllables, ← sameUnits] at found'
    cases found.symm.trans found'
    simp only [Encoding.record, Instruction.reading] at operands ⊢
    rw [operands, syllables]
  refine ⟨same, ?_⟩
  rw [same] at marked
  exact stopsAfter_eq_of_stopMark_eq stops (String.append_right_inj _ |>.mp marked)

variable (equal : lines flags left address = lines flags right address)

include equal

theorem units_eq_of_lines_eq : left.template.units = right.template.units := by
  obtain ⟨leftFirst, _, leftRecorded, leftLines⟩ := exists_first_line leftDecodes flags address
  obtain ⟨rightFirst, _, rightRecorded, rightLines⟩ := exists_first_line rightDecodes flags address
  obtain ⟨_, _, rfl⟩ := exists_reading_of_decode leftDecodes leftRecorded
  obtain ⟨_, _, rfl⟩ := exists_reading_of_decode rightDecodes rightRecorded
  rw [leftLines, rightLines] at equal
  have columns := (parts_eq_of_line_eq units rawBits (toNat_slotBits_lt leftRaw 0)
    (toNat_slotBits_lt rightRaw 0) (List.cons.inj equal).1).1
  exact Template.units_eq_of_letters_eq (letters_eq_of_templateColumn_eq units columns)

/-- Each slot that executes something has a line of its own. -/
theorem line_eq_of_lines_eq {slot : Fin 3} (unit : left.template.units.get slot ≠ .l) :
    ∃ first leftShown rightShown, left.slots.get slot = .decoded leftShown ∧
      right.slots.get slot = .decoded rightShown ∧
      line flags left.template address first slot leftShown =
        line flags right.template address first slot rightShown := by
  have sameUnits := units_eq_of_lines_eq units rawBits leftDecodes rightDecodes equal
  rcases left.template.units_cases with short | long
  · obtain ⟨l₀, l₁, l₂, left₀, left₁, left₂, leftLines⟩ :=
      lines_of_short leftDecodes flags address short
    obtain ⟨r₀, r₁, r₂, right₀, right₁, right₂, rightLines⟩ :=
      lines_of_short rightDecodes flags address (sameUnits ▸ short)
    rw [leftLines, rightLines] at equal
    obtain ⟨first, second, third, -⟩ := by simpa only [List.cons.injEq] using equal
    match slot with
    | 0 => exact ⟨_, _, _, left₀, right₀, first⟩
    | 1 => exact ⟨_, _, _, left₁, right₁, second⟩
    | 2 => exact ⟨_, _, _, left₂, right₂, third⟩
  -- A long bundle has two lines, as its long half is shown with its X.
  · obtain ⟨l₀, l₂, left₀, left₂, leftLines⟩ := lines_of_long leftDecodes flags address long
    obtain ⟨r₀, r₂, right₀, right₂, rightLines⟩ :=
      lines_of_long rightDecodes flags address (sameUnits ▸ long)
    rw [leftLines, rightLines] at equal
    obtain ⟨first, third, -⟩ := by simpa only [List.cons.injEq] using equal
    match slot with
    | 0 => exact ⟨_, _, _, left₀, right₀, first⟩
    | 1 => exact absurd (by simp [long]) unit
    | 2 => exact ⟨_, _, _, left₂, right₂, third⟩

include stops in
/-- Equal listings show one template and the same instructions. -/
theorem same_of_lines_eq : left.template = right.template ∧
    ∀ slot instruction, left.slots.get slot = .decoded instruction →
      right.slots.get slot = .decoded instruction := by
  have sameUnits := units_eq_of_lines_eq units rawBits leftDecodes rightDecodes equal
  have same (slot : Fin 3) (unit : left.template.units.get slot ≠ .l) :
      left.slots.get slot = right.slots.get slot ∧
        left.template.stopsAfter slot = right.template.stopsAfter slot := by
    obtain ⟨first, leftShown, rightShown, leftRecorded, rightRecorded, lineEqual⟩ :=
      line_eq_of_lines_eq units rawBits leftDecodes rightDecodes equal unit
    obtain ⟨rfl, stop⟩ := instruction_eq_of_line_eq units stops rawBits leftDecodes rightDecodes
      sameUnits leftRecorded rightRecorded lineEqual
    exact ⟨leftRecorded.trans rightRecorded.symm, stop⟩
  constructor
  · exact Template.eq_of_stopsAfter_eq sameUnits fun slot unit => (same slot unit).2
  · intro slot instruction recorded
    rw [← (same slot (unit_ne_of_decode leftDecodes recorded)).1, recorded]

end Lines

theorem lines_eq_of_same {leftRaw rightRaw : BitVec 128} {left right : Bundle}
    (leftDecodes : decode leftRaw = .ok left) (rightDecodes : decode rightRaw = .ok right)
    (templates : left.template = right.template)
    (same : ∀ slot instruction, left.slots.get slot = .decoded instruction →
      right.slots.get slot = .decoded instruction) (flags : Flags) (address : Word) :
    lines flags left address = lines flags right address := by
  have instructions : left.instructions = right.instructions := by
    rw [instructions_eq, instructions_eq]
    apply List.filterMap_congr
    intro slot _
    by_cases unit : left.template.units.get slot = .l
    · rw [longHalf_of_decode leftDecodes unit, longHalf_of_decode rightDecodes (templates ▸ unit)]
      rfl
    · obtain ⟨instruction, recorded⟩ := exists_instruction_of_decode leftDecodes unit
      rw [recorded, same slot instruction recorded]
  rw [lines, lines, templates, instructions]

/-- A listing with units, stops and raw bits identifies its bundle, but for the bits of the long half
that a `brl` ignores. -/
theorem lines_eq_iff {leftRaw rightRaw : BitVec 128} {left right : Bundle}
    (leftDecodes : decode leftRaw = .ok left) (rightDecodes : decode rightRaw = .ok right)
    {flags : Flags} (units : flags.template = true) (stops : flags.stops = true)
    (rawBits : flags.rawBits = true) (address : Word) :
    lines flags left address = lines flags right address ↔
      leftRaw = rightRaw ∨ (left.IsLongBranch ∧ right.IsLongBranch ∧
        ∀ bit, bit ≠ 46 → bit ≠ 47 → leftRaw.getLsbD bit = rightRaw.getLsbD bit) := by
  constructor
  · intro equal
    exact (same_iff leftDecodes rightDecodes).mp
      (same_of_lines_eq units stops rawBits leftDecodes rightDecodes equal)
  · intro bits
    obtain ⟨templates, same⟩ := (same_iff leftDecodes rightDecodes).mpr bits
    exact lines_eq_of_same leftDecodes rightDecodes templates same flags address

/-- Two bundles with one `brl.cond` are listed alike, and only one has bits set in its long half. -/
theorem lines_eq_iff_brl :
    (0xC0000000000000000000000000000004 : BitVec 128) ≠ 0xC0000000000000000000C00000000004 ∧
      ∃ left right, decode 0xC0000000000000000000000000000004 = .ok left ∧
        decode 0xC0000000000000000000C00000000004 = .ok right ∧
        lines ⟨true, true, true, true⟩ left 0x1000 =
          lines ⟨true, true, true, true⟩ right 0x1000 := by
  have leftDecodes : decode 0xC0000000000000000000000000000004 = .ok ⟨.mlx, #v[
      .decoded (.reading .breakM .m37 0 none), .longHalf 0,
      .decoded (.reading .brlCond .x3 0x18000000000 (some 0))]⟩ := by decide
  have rightDecodes : decode 0xC0000000000000000000C00000000004 = .ok ⟨.mlx, #v[
      .decoded (.reading .breakM .m37 0 none), .longHalf 3,
      .decoded (.reading .brlCond .x3 0x18000000000 (some 3))]⟩ := by decide
  refine ⟨by decide, _, _, leftDecodes, rightDecodes, ?_⟩
  refine (lines_eq_iff leftDecodes rightDecodes rfl rfl rfl 0x1000).mpr (.inr ⟨?_, ?_, ?_⟩)
  · exact ⟨List.mem_cons_self, 2, _, rfl, rfl, List.mem_cons_self⟩
  · exact ⟨List.mem_cons_self, 2, _, rfl, rfl, List.mem_cons_self⟩
  · exact eq_but_low_iff.mpr (by decide)

end Bundle

end Itanium
