import Itanium.Proofs.Overwriting

/-!
# The number of `break`, `nop` and `hint`

These operations carry a number of twenty-one bits, the highest of them in bit 36. Whatever number
is written there, the syllable keeps its encoding, its completers and its predicate. The M, the I
and the B unit show the number that was written. The F unit reads the lower field alone, so it shows
no number from `2 ^ 20` up.
-/
namespace Itanium

open BitField Layout

namespace ExecutionUnit

/-- The formats of `break`, `nop` and `hint`. -/
def numberedFormats : ExecutionUnit → List Format
  | m => [.m37, .m48]
  | i => [.i18, .i19]
  | f => [.f15, .f16]
  | b => [.b9]
  | x => [.x1, .x5]
  | l => []

/-- The fields that the number is read from. -/
def numberFields : ExecutionUnit → List BitField
  | f => [⟨6, 20⟩]
  | _ => immediate21

theorem exists_append_numberFields (unit : ExecutionUnit) :
    ∃ more, unit.numberFields ++ more = immediate21 := by
  cases unit with
  | f => exact ⟨[⟨36, 1⟩], rfl⟩
  | _ => exact ⟨[], List.append_nil _⟩

theorem totalWidth_numberFields (unit : ExecutionUnit) :
    totalWidth unit.numberFields = if unit = .f then 20 else 21 := by
  cases unit <;> rfl

end ExecutionUnit

theorem areSeparate_immediate21 : areSeparate 41 immediate21 = true := by
  decide

section Numbered

variable {unit : ExecutionUnit} {encoding : Encoding} {syllable : Word}

theorem format_mem_numberedFormats (found : OpcodeSpace.lookup? unit syllable = some encoding)
    (numbered : encoding.operation.mnemonic ∈ [.brk, .nop, .hint]) :
    encoding.format ∈ unit.numberedFormats := by
  refine OpcodeSpace.of_lookup? (fun unit encoding =>
    encoding.operation.mnemonic ∈ [.brk, .nop, .hint] → encoding.format ∈ unit.numberedFormats)
    ?_ found numbered
  intro unit
  cases unit <;> decide +kernel

/-- Outside the X unit the number is the only operand, and the format reads nothing else. -/
theorem layout_of_mem_numberedFormats (short : unit ≠ .x) {format : Format}
    (member : format ∈ unit.numberedFormats) (operation : Operation) :
    format.operandSources operation = [.predicate 0, .unsigned unit.numberFields] ∧
      format.hints = [] ∧ format.reserved = [] := by
  cases unit with
  | x => contradiction
  | l => cases member
  | b =>
    obtain rfl := List.mem_singleton.mp member
    exact ⟨rfl, rfl, rfl⟩
  | m | i | f =>
    rcases List.mem_pair.mp member with rfl | rfl <;> exact ⟨rfl, rfl, rfl⟩

theorem unruled_of_mem_numberedFormats (unit : ExecutionUnit) :
    ∀ rule ∈ OpcodeSpace.rules unit, rule.encoding.format ∈ unit.numberedFormats →
      areApart immediate21 rule.fields = true := by
  cases unit <;> decide +kernel

/-- A unit shows as much of the number as it reads. -/
theorem operands_scatter_immediate21 (short : unit ≠ .x)
    (member : encoding.format ∈ unit.numberedFormats) (number : Nat) (syllable long : Word) :
    encoding.format.operands encoding.operation (scatter number syllable immediate21) long =
      (encoding.format.operands encoding.operation syllable long).setIfInBounds 1
        ⟨.imm, BitVec.ofNat 64 (number % 2 ^ if unit = .f then 20 else 21)⟩ := by
  obtain ⟨sources, _, _⟩ := layout_of_mem_numberedFormats short member encoding.operation
  have others : ∀ other ∈ (encoding.format.operandSources encoding.operation).eraseIdx 1,
      areApart immediate21 other.fields = true := by
    rw [sources]
    intro other predicate
    obtain rfl := List.mem_singleton.mp predicate
    decide
  obtain ⟨more, all⟩ := unit.exists_append_numberFields
  have read : gather (scatter number syllable immediate21) unit.numberFields =
      number % 2 ^ if unit = .f then 20 else 21 := by
    -- The fields that the unit reads are the first that are written.
    have separate := areSeparate_immediate21
    rw [← all] at separate ⊢
    rw [gather_scatter_append (by decide) separate, unit.totalWidth_numberFields]
  have shown : (encoding.format.operands encoding.operation (scatter number syllable immediate21)
      long)[1] = ⟨.imm, BitVec.ofNat 64 (number % 2 ^ if unit = .f then 20 else 21)⟩ := by
    have second : (encoding.format.operandSources encoding.operation)[1]? =
        some (.unsigned unit.numberFields) := by rw [sources]; rfl
    rw [Format.operands_of_operandSources second, ← read, ← BitVec.shiftLeft_zero (BitVec.ofNat ..)]
    rfl
  rw [← shown]
  exact Format.operands_scatter others (by decide) number syllable long

/-- A number of twenty-one bits can be written into every `break`, `nop` and `hint`: the syllable
keeps its encoding, and what it is read as differs in the number only. What is shown is the number,
but for the F unit, which shows the lower twenty bits of it. -/
theorem immediate21_depends_on_unit {long : Option Word} {number : Nat}
    (bound : syllable.toNat < 2 ^ 41) (short : unit ≠ .x)
    (found : OpcodeSpace.lookup? unit syllable = some encoding)
    (numbered : encoding.operation.mnemonic ∈ [.brk, .nop, .hint]) (fits : number < 2 ^ 21) :
    (scatter number syllable immediate21).toNat < 2 ^ 41 ∧
      OpcodeSpace.lookup? unit (scatter number syllable immediate21) = some encoding ∧
      ∃ instruction shown, encoding.Reads syllable long instruction ∧
        encoding.Reads (scatter number syllable immediate21) long
          (instruction.withOperand (scatter number syllable immediate21) 1 ⟨.imm, shown⟩) ∧
        shown.toNat = number % 2 ^ (if unit = .f then 20 else 21) ∧
        (shown = BitVec.ofNat 64 number ↔ unit ≠ .f ∨ number < 2 ^ 20) := by
  have member := format_mem_numberedFormats found numbered
  obtain ⟨_, hints, reserved⟩ := layout_of_mem_numberedFormats short member encoding.operation
  have reads : encoding.Reads syllable long
      (.reading encoding.operation encoding.format syllable long) := by
    rw [Encoding.Reads, extract_of_lookup? found (absurd · short), reserved]
    rfl
  refine ⟨toNat_scatter_lt areSeparate_immediate21 bound number, ?_, _,
    BitVec.ofNat 64 (number % 2 ^ if unit = .f then 20 else 21), reads, ?_, ?_, ?_⟩
  · apply OpcodeSpace.lookup?_scatter _ found
    exact fun rule listed same => unruled_of_mem_numberedFormats unit rule listed (same ▸ member)
  · apply Encoding.reads_scatter reads
    · simp [hints]
    · simp [reserved]
    · exact operands_scatter_immediate21 short member number syllable (long.getD 0)
  · rw [BitVec.toNat_ofNat]
    split <;> omega
  · rw [← BitVec.toNat_inj, BitVec.toNat_ofNat, BitVec.toNat_ofNat]
    split
    next float => simp only [float, ne_eq, not_true_eq_false, false_or]; omega
    next other => simp only [other, ne_eq, not_false_eq_true, true_or, iff_true]; omega

/-- The I unit shows the highest bit. -/
theorem immediate21_depends_on_unit_nop_i :
    OpcodeSpace.lookup? .i 0x8000000 = some ⟨.nopI, .i18⟩ ∧
      OpcodeSpace.lookup? .i 0x1008000000 = some ⟨.nopI, .i18⟩ ∧
      ∃ instruction, extract .nopI .i18 0x1008000000 none = .ok instruction ∧
        instruction.operands.get 1 = ⟨.imm, 0x100000⟩ := by
  have found : OpcodeSpace.lookup? .i 0x8000000 = some ⟨.nopI, .i18⟩ := by decide
  have written : scatter 0x100000 0x8000000 immediate21 = 0x1008000000 := by decide
  have fits : 0x100000 < 2 ^ 21 := by decide
  obtain ⟨_, again, instruction, shown, reads, rereads, _, all⟩ :=
    immediate21_depends_on_unit (by decide) (by decide) found (by decide) fits
  obtain rfl := all.mpr (.inl (by decide))
  rw [written] at again rereads
  exact ⟨found, again, _, rereads, Vector.getElem_setIfInBounds_self (by decide)⟩

/-- The F unit shows zero for a number that has the highest bit alone. -/
theorem immediate21_depends_on_unit_nop_f :
    OpcodeSpace.lookup? .f 0x8000000 = some ⟨.nopF, .f16⟩ ∧
      scatter 0x100000 0x8000000 immediate21 = 0x1008000000 ∧
      OpcodeSpace.lookup? .f 0x1008000000 = some ⟨.nopF, .f16⟩ ∧
      ∃ instruction, extract .nopF .f16 0x1008000000 none = .ok instruction ∧
        instruction.operands.get 1 = ⟨.imm, 0⟩ ∧
        instruction.operands.get 1 ≠ ⟨.imm, 0x100000⟩ :=
  ⟨by decide, by decide, by decide, _, rfl, by decide, by decide⟩

end Numbered

end Itanium
