import Itanium.Proofs.FixedFields
import Itanium.Proofs.QualifyingPredicate

/-!
# Implied operands

Some operands are not fields of their own but follow from the opcode: the increment of a load of two
floating-point registers, the application registers of the semaphores and of `ld16`, the kind of a
system register. A layout takes them from fields that the opcode space has read before. A rule fixes
these fields, so the operands are those of its pattern, the syllable with no bit but those of the
codes, and what they are is a check of every rule.
-/
namespace Itanium

open BitField Layout OpcodeSpace

/-- The kinds of the system registers that only a move has. -/
def OperandKind.system : List OperandKind :=
  [.cpuid, .dbr, .dtr, .ibr, .ip, .itr, .msr, .pkr, .pmc, .pmd, .psr, .psrL, .psrUm, .rr]

/-! ### What a rule says of the operands -/

namespace Layout

/-- The fields that decide the kind of an operand. -/
def Source.kindFields (source : Source) : List BitField :=
  source.rule.fields ++ source.presence.toList.map (·.1)

theorem Source.kind_operand_congr {source : Source} {left right : Word}
    (agree : Agree source.kindFields left right) (operation : Operation)
    (leftLong rightLong : Word) :
    (source.operand operation left leftLong).kind =
      (source.operand operation right rightLong).kind := by
  obtain ⟨agreeKind, agreePresence⟩ := agree_append.mp agree
  rw [operand, operand, isPresent_congr agreePresence]
  cases source.isPresent right with
  | true => exact KindRule.kind_congr agreeKind
  | false => rfl

/-- The operand never is a system register. -/
def KindRule.isOrdinary : KindRule → Bool
  | always kind => kind ∉ OperandKind.system
  | _ => false

theorem Source.kind_operand_notMem {source : Source} (ordinary : source.rule.isOrdinary = true)
    (operation : Operation) (syllable long : Word) :
    (source.operand operation syllable long).kind ∉ OperandKind.system := by
  rw [operand]
  split
  next present =>
    cases rule : source.rule with
    | always kind =>
      rw [rule] at ordinary
      exact of_decide_eq_true ordinary
    | byCode | ofOperation =>
      rw [rule] at ordinary
      cases ordinary
  next absent => decide

end Layout

namespace OpcodeSpace.Rule

def sources (rule : Rule) : List Source :=
  rule.encoding.format.operandSources rule.encoding.operation

/-- The operands of the pattern of the rule. -/
def operands (rule : Rule) : Vector Operand 7 :=
  rule.encoding.format.operands rule.encoding.operation (pattern rule.conditions) 0

/-- The operand is read from fields that the rule fixes. -/
def settles (rule : Rule) (position : Fin 7) : Bool :=
  rule.sources[position.val]?.all fun source =>
    source.fields.all (isWithin rule.fields) && source.quantity.longFields.isEmpty

section Admitted

variable {rule : Rule} {syllable : Word} (admits : rule.admits syllable = true) (long : Word)

include admits

theorem get_operands_of_settles {position : Fin 7} (settled : rule.settles position = true) :
    (rule.encoding.format.operands rule.encoding.operation syllable long).get position =
      rule.operands.get position := by
  rw [Vector.get_eq_getElem, Vector.get_eq_getElem]
  apply Format.getElem_operands_congr position.isLt
  intro source listed
  rw [settles, sources, listed, Option.all_some, Bool.and_eq_true, List.isEmpty_iff] at settled
  obtain ⟨within, short⟩ := settled
  rw [short]
  exact ⟨Rule.agree_pattern admits within, nofun⟩

theorem kind_get_operands
    (within : ∀ source ∈ rule.sources, source.kindFields.all (isWithin rule.fields) = true)
    (position : Fin 7) :
    ((rule.encoding.format.operands rule.encoding.operation syllable long).get position).kind =
      (rule.operands.get position).kind := by
  rw [operands, Vector.get_eq_getElem, Vector.get_eq_getElem, Format.getElem_operands,
    Format.getElem_operands]
  cases listed : (rule.encoding.format.operandSources rule.encoding.operation)[position.val]? with
  | none => rfl
  | some source =>
    have here := within source (List.mem_of_getElem? listed)
    exact Source.kind_operand_congr (Rule.agree_pattern admits here) ..

end Admitted

end OpcodeSpace.Rule

/-! ### What the opcode says of the operands -/

/-- The increment of the base after a load of two floating-point registers. -/
def Mnemonic.pairIncrement? : Mnemonic → Option Word
  | .ldfps => some 8
  | .ldfp8 | .ldfpd => some 16
  | _ => none

/-- The last two operands of a semaphore. -/
def Mnemonic.comparands? : Mnemonic → Option (Operand × Operand)
  | .cmpxchg1 | .cmpxchg2 | .cmpxchg4 | .cmpxchg8 => some (⟨.areg, 32⟩, .absent)
  | .xchg1 | .xchg2 | .xchg4 | .xchg8 => some (.absent, .absent)
  | .cmp8xchg16 => some (⟨.areg, 25⟩, ⟨.areg, 32⟩)
  | _ => none

/-- Where a move of a system register has that register. -/
def Format.systemPosition? : Format → Option Nat
  | .m35 | .m42 => some 1
  | .i25 | .m36 | .m43 => some 2
  | _ => none

/-- The operands that an instruction implies are those of its opcode. -/
structure Instruction.FollowsOpcode (operation : Operation) (instruction : Instruction) : Prop where
  increment : instruction.format = .m12 →
    instruction.mnemonic.pairIncrement?.map (Operand.mk .imm) = some (instruction.operands.get 4)
  comparands : instruction.format = .m16 → instruction.mnemonic.comparands? =
    some (instruction.operands.get 4, instruction.operands.get 5)
  sourceIndex : instruction.format = .m1 →
    (instruction.sourceIndex = 3 ↔ instruction.mnemonic = .ld16)
  secondTarget : instruction.format = .m1 →
    (instruction.operands.get 2 = ⟨.areg, 25⟩ ↔ instruction.mnemonic = .ld16)
  /-- The register that is moved stands in one position, which depends on the format alone. -/
  moved : operation.assembly.systemRegister ≠ .none →
    ∃ position, instruction.format.systemPosition? = some position ∧
      ∀ other, (instruction.operands.get other).kind = operation.assembly.systemRegister ↔
        other.val = position
  unmoved : operation.assembly.systemRegister = .none →
    ∀ position, (instruction.operands.get position).kind ∉ OperandKind.system

/-! ### The rules of the units -/

namespace OpcodeSpace

variable (unit : ExecutionUnit)

theorem kindFields_within : ∀ rule ∈ rules unit, ∀ source ∈ rule.sources,
    source.kindFields.all (isWithin rule.fields) = true := by
  cases unit <;> decide +kernel

theorem increment_of_rules : ∀ rule ∈ rules unit, rule.encoding.format = .m12 →
    rule.settles 4 = true ∧
      rule.encoding.operation.mnemonic.pairIncrement?.map (Operand.mk .imm) =
        some (rule.operands.get 4) := by
  cases unit <;> decide +kernel

theorem comparands_of_rules : ∀ rule ∈ rules unit, rule.encoding.format = .m16 →
    rule.settles 4 = true ∧ rule.settles 5 = true ∧
      rule.encoding.operation.mnemonic.comparands? =
        some (rule.operands.get 4, rule.operands.get 5) := by
  cases unit <;> decide +kernel

theorem secondTarget_of_rules : ∀ rule ∈ rules unit, rule.encoding.format = .m1 →
    if rule.encoding.operation.mnemonic = .ld16 then
      rule.settles 2 = true ∧ rule.operands.get 2 = ⟨.areg, 25⟩
    else (rule.operands.get 2).kind = .mem := by
  cases unit <;> decide +kernel

theorem moved_of_rules : ∀ rule ∈ rules unit,
    rule.encoding.operation.assembly.systemRegister ≠ .none →
      ∃ position ∈ rule.encoding.format.systemPosition?,
        ∀ other, (rule.operands.get other).kind =
          rule.encoding.operation.assembly.systemRegister ↔ other.val = position := by
  cases unit <;> decide +kernel

theorem unmoved_of_rules : ∀ rule ∈ rules unit,
    rule.encoding.operation.assembly.systemRegister = .none →
      ∀ source ∈ rule.sources, source.rule.isOrdinary = true := by
  cases unit <;> decide +kernel

end OpcodeSpace

theorem Format.kind_get_operands_notMem {format : Format} {operation : Operation}
    (ordinary : ∀ source ∈ format.operandSources operation, source.rule.isOrdinary = true)
    (syllable long : Word) (position : Fin 7) :
    ((format.operands operation syllable long).get position).kind ∉ OperandKind.system := by
  rw [Vector.get_eq_getElem, getElem_operands]
  cases listed : (format.operandSources operation)[position.val]? with
  | none =>
    change Operand.absent.kind ∉ OperandKind.system
    decide
  | some source =>
    exact Source.kind_operand_notMem (ordinary source (List.mem_of_getElem? listed)) _ _ _

/-- What a syllable of the unit is read as has the operands that its opcode implies. -/
theorem implied_operands_follow_opcode {unit : ExecutionUnit} {syllable : Word}
    {encoding : Encoding} {long : Option Word} {instruction : Instruction}
    (found : lookup? unit syllable = some encoding)
    (reads : encoding.Reads syllable long instruction) :
    instruction.FollowsOpcode encoding.operation := by
  obtain ⟨rule, member, admits, rfl⟩ := exists_rule_of_lookup? found
  obtain ⟨_, _, _, rfl⟩ := extract_eq_ok_iff.mp reads
  have kinds := Rule.kind_get_operands admits (long.getD 0) (kindFields_within unit rule member)
  refine ⟨?increment, ?comparands, ?sourceIndex, ?secondTarget, ?moved, ?unmoved⟩
  case increment =>
    intro format
    obtain ⟨settled, implied⟩ := increment_of_rules unit rule member format
    exact implied.trans (congrArg some (Rule.get_operands_of_settles admits _ settled).symm)
  case comparands =>
    intro format
    obtain ⟨first, second, implied⟩ := comparands_of_rules unit rule member format
    rw [← Rule.get_operands_of_settles admits (long.getD 0) first,
      ← Rule.get_operands_of_settles admits (long.getD 0) second] at implied
    exact implied
  case sourceIndex =>
    intro format
    change rule.encoding.format.sourceIndex rule.encoding.operation.mnemonic = 3 ↔
      rule.encoding.operation.mnemonic = .ld16
    rw [show rule.encoding.format = .m1 from format, Format.sourceIndex]
    split
    next wide => exact iff_of_true rfl wide
    next narrow => exact iff_of_false (by decide) narrow
  case secondTarget =>
    intro format
    have target := secondTarget_of_rules unit rule member format
    split at target
    next wide =>
      obtain ⟨settled, implied⟩ := target
      rw [← Rule.get_operands_of_settles admits (long.getD 0) settled] at implied
      exact iff_of_true implied wide
    -- The other loads have their address there.
    next narrow =>
      rw [← kinds 2] at target
      refine iff_of_false ?_ narrow
      intro implied
      exact absurd (target.symm.trans (congrArg Operand.kind implied)) (by decide)
  -- A register that is moved may be numbered by a free field, but its kind is fixed.
  case moved =>
    intro moves
    obtain ⟨position, placed, only⟩ := moved_of_rules unit rule member moves
    refine ⟨position, placed, ?_⟩
    intro other
    rw [← only other, ← kinds other]
    rfl
  case unmoved =>
    intro still position
    exact Format.kind_get_operands_notMem (unmoved_of_rules unit rule member still) _ _ position

/-- `cmp8xchg16.acq` implies the second data register and the comparand. -/
theorem implied_operands_follow_opcode_cmp8xchg16 :
    lookup? .m 0x8808000000 = some ⟨.cmp8xchg16Acq, .m16⟩ ∧
      ∃ instruction, extract .cmp8xchg16Acq .m16 0x8808000000 none = .ok instruction ∧
        instruction.operands.get 4 = ⟨.areg, 25⟩ ∧ instruction.operands.get 5 = ⟨.areg, 32⟩ := by
  have found : lookup? .m 0x8808000000 = some ⟨.cmp8xchg16Acq, .m16⟩ := by decide
  have reads : Encoding.Reads ⟨.cmp8xchg16Acq, .m16⟩ 0x8808000000 none
      (.reading .cmp8xchg16Acq .m16 0x8808000000 none) := rfl
  have follows := implied_operands_follow_opcode found reads
  have pair := Option.some.inj (follows.comparands rfl)
  exact ⟨found, _, reads, (congrArg Prod.fst pair).symm, (congrArg Prod.snd pair).symm⟩

end Itanium
