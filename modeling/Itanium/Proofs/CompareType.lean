import Itanium.Proofs.FixedFields
import Itanium.Proofs.Overwriting

/-!
# The compare-type bit

Compares and tests that write two predicates have a bit which selects between two ways of writing
them. Its two codes stand for rules of one format and one mnemonic that differ in nothing but the
bit, or a completer is read from it, so a syllable with the bit flipped is read as the same
instruction with other completers. The classification of floating-point numbers alone has neither:
there the bit is lost.
-/
namespace Itanium

open BitField Layout OpcodeSpace

/-! ### Flipping a bit -/

def Word.flip (word : Word) (bit : Nat) : Word :=
  word ^^^ BitVec.twoPow 64 bit

/-- Flipping a bit is writing its other code. -/
theorem Word.flip_eq_scatter (word : Word) {bit : Nat} (room : bit < 64) :
    word.flip bit = scatter (1 - (⟨bit, 1⟩ : BitField).read word) word [⟨bit, 1⟩] := by
  have code : (⟨bit, 1⟩ : BitField).read word = (word.getLsbD bit).toNat := by
    rw [read_eq_mod, ← BitVec.testBit_toNat, Nat.testBit_eq_decide_div_mod_eq, pow_one]
    rcases Nat.mod_two_eq_zero_or_one (word.toNat / 2 ^ bit) with clear | set
    · rw [clear]
      rfl
    · rw [set]
      rfl
  -- Only the bit itself is written, and one minus its code is the other code.
  apply BitVec.eq_of_getLsbD_eq
  intro other bound
  rw [flip, BitVec.getLsbD_xor, BitVec.getLsbD_twoPow, scatter, scatter, getLsbD_write _ _ _ bound,
    code]
  by_cases here : other = bit
  · subst here
    cases word.getLsbD other <;> simp [holds, room]
  · have outside : (⟨bit, 1⟩ : BitField).holds other = false := by
      simp only [holds, Bool.and_eq_false_iff, decide_eq_false_iff_not]
      omega
    simp [outside, Ne.symm here]

/-- The bit of a compare or a test that selects between two ways of writing its predicates. -/
def compareType : BitField :=
  ⟨12, 1⟩

section Flipped

variable (syllable : Word)

theorem read_compareType_flip :
    compareType.read (syllable.flip 12) = 1 - compareType.read syllable := by
  rw [Word.flip_eq_scatter _ (by decide)]
  exact (read_write (by decide) _ _).trans (Nat.mod_eq_of_lt (Nat.lt_succ_of_le (Nat.sub_le ..)))

/-- Fields apart from the bit read as before. -/
theorem agree_flip {fields : List BitField} (apart : areApart [compareType] fields = true) :
    Agree fields (syllable.flip 12) syllable := by
  rw [Word.flip_eq_scatter _ (by decide)]
  exact agree_scatter apart _ _

end Flipped

/-! ### Rules for the two codes -/

namespace OpcodeSpace.Rule

/-- The conditions, with the other code of the bit where they want one. -/
def flipped (rule : Rule) : List (BitField × Nat) :=
  rule.conditions.map fun condition =>
    (condition.1, if condition.1 = compareType then 1 - condition.2 else condition.2)

/-- The rules differ in the bit alone, as far as they read it, and are about one format and one
mnemonic. Only formats whose rules do not read the bit have the same completers for both. -/
@[mk_iff]
structure IsTwin (rule twin : Rule) : Prop where
  format : twin.encoding.format = rule.encoding.format
  conditions : twin.conditions = rule.flipped
  mnemonic : twin.encoding.operation.mnemonic = rule.encoding.operation.mnemonic
  completers :
    twin.encoding.operation.assembly.completers = rule.encoding.operation.assembly.completers ↔
      rule.encoding.format ∈ [.f4, .f5]

instance (rule twin : Rule) : Decidable (rule.IsTwin twin) :=
  decidable_of_iff' _ (isTwin_iff rule twin)

theorem admits_flip {rule twin : Rule} (twins : rule.IsTwin twin)
    (apart : ∀ field ∈ rule.fields, field = compareType ∨ areApart [compareType] [field] = true)
    {syllable : Word} (admits : rule.admits syllable = true) :
    twin.admits (syllable.flip 12) = true := by
  rw [Rule.admits_iff] at admits ⊢
  rw [twins.conditions, flipped]
  intro condition listed
  obtain ⟨⟨field, code⟩, member, rfl⟩ := List.mem_map.mp listed
  have met : field.read syllable = code := admits _ member
  rcases apart field (List.mem_map_of_mem member) with rfl | elsewhere
  · rw [if_pos rfl, read_compareType_flip, met]
  · have here : field ≠ compareType := by
      rintro rfl
      exact absurd elsewhere (by decide)
    rw [if_neg here, (agree_flip syllable elsewhere).singleton, met]

end OpcodeSpace.Rule

/-! ### Formats that write two predicates -/

namespace Layout

variable {rule : KindRule} {source : Source}

theorem KindRule.kind_eq_of_ne (named : rule ≠ .ofOperation) (syllable : Word)
    (first second : Operation) : rule.kind syllable first = rule.kind syllable second := by
  cases rule with
  | ofOperation => contradiction
  | always | byCode => rfl

/-- Where the layout names the kind, the operation has no part in the operand. -/
theorem Source.operand_eq_of_ne (named : source.rule ≠ .ofOperation) (first second : Operation)
    (syllable long : Word) :
    source.operand first syllable long = source.operand second syllable long := by
  rw [operand, operand, KindRule.kind_eq_of_ne named syllable first second]

end Layout

namespace Format

/-- The formats of compares and tests. -/
def comparing : List Format :=
  [.a6, .a7, .a8, .f4, .f5, .i16, .i17, .i30]

/-- The search for a twin is among the pages of the same major opcode. -/
theorem exists_twin_of_page (unit : ExecutionUnit) : ∀ page ∈ pages unit, ∀ rule ∈ page.rules,
    rule.encoding.format ∈ comparing →
      (∀ field ∈ rule.fields, field = compareType ∨ areApart [compareType] [field] = true) ∧
        ∃ other ∈ pages unit, other.guards.head? = page.guards.head? ∧
          ∃ twin ∈ other.rules, rule.IsTwin twin := by
  cases unit <;> decide +kernel

/-- Every rule of a compare or a test has a twin. -/
theorem exists_twin {unit : ExecutionUnit} {rule : Rule} (member : rule ∈ rules unit)
    (comparison : rule.encoding.format ∈ comparing) :
    (∀ field ∈ rule.fields, field = compareType ∨ areApart [compareType] [field] = true) ∧
      ∃ twin ∈ rules unit, rule.IsTwin twin := by
  obtain ⟨page, listed, inPage⟩ := List.mem_flatMap.mp member
  obtain ⟨apart, other, otherListed, -, twin, inOther, twins⟩ :=
    exists_twin_of_page unit page listed rule inPage comparison
  exact ⟨apart, twin, List.mem_flatMap.mpr ⟨other, otherListed, inOther⟩, twins⟩

variable {format : Format} (comparison : format ∈ comparing)

include comparison

/-- The operands are the same for all operations, and none is read from the bit. -/
theorem sources_of_comparing (operation : Operation) :
    format.operandSources operation = format.operandSources .add ∧
      ∀ source ∈ format.operandSources .add, source.rule ≠ .ofOperation ∧
        areApart [compareType] source.fields = true := by
  simp only [comparing, List.mem_cons, List.not_mem_nil, or_false] at comparison
  rcases comparison with rfl | rfl | rfl | rfl | rfl | rfl | rfl | rfl <;> exact ⟨rfl, by decide⟩

theorem reserved_of_comparing :
    ∀ reserved ∈ format.reserved, areApart [compareType] [reserved.field] = true := by
  revert comparison format
  decide

/-- Only the compare of floating-point numbers has hints. -/
theorem hints_of_comparing (other : format ≠ .f4) : format.hints = [] := by
  revert comparison other format
  decide

variable (operation other : Operation) (syllable long : Word)

theorem operands_flip :
    format.operands other (syllable.flip 12) long = format.operands operation syllable long := by
  obtain ⟨sources, apart⟩ := sources_of_comparing comparison operation
  obtain ⟨otherSources, -⟩ := sources_of_comparing comparison other
  ext1 position room
  rw [getElem_operands _ _ _ _ room, getElem_operands _ _ _ _ room, sources, otherSources]
  cases listed : (format.operandSources .add)[position]? with
  | none => rfl
  | some source =>
    obtain ⟨named, unread⟩ := apart source (List.mem_of_getElem? listed)
    have same : source.operand operation (syllable.flip 12) long =
        source.operand operation syllable long :=
      Source.operand_congr (agree_flip syllable unread) fun _ _ => rfl
    rw [Option.map_some, Option.map_some, ← same, Source.operand_eq_of_ne named other operation]

/-- The completers tell the two codes apart unless those of the opcode are the same and no hint is
read from the bit. -/
theorem completers_flip_iff :
    format.completers other (syllable.flip 12) = format.completers operation syllable ↔
      other.assembly.completers = operation.assembly.completers ∧ format ≠ .f4 := by
  rw [completers, completers]
  constructor
  · intro equal
    obtain ⟨opcode, hinted⟩ := List.append_inj' equal (by simp)
    refine ⟨opcode, ?_⟩
    rintro rfl
    -- The hint of the compare type is faithful, and the bit has changed.
    have member : (⟨.fctype, [compareType], [.none, .unc]⟩ : Hint) ∈ hints .f4 := by
      simp [hints, floatCompareHints, compareType]
    have shown := List.map_inj_left.mp hinted _ member
    have read := Hint.read_eq_of_completer_eq (by decide) shown _ List.mem_cons_self
    have flipped := read_compareType_flip syllable
    have small := compareType.read_lt syllable
    omega
  · rintro ⟨opcode, short⟩
    rw [opcode, hints_of_comparing comparison short]
    rfl

end Format

/-- A compare or a test with the bit flipped is accepted as an instruction of the same format, the
same mnemonic and the same operands. Its completers are others, unless it classifies a
floating-point number. -/
theorem compare_type_changes_completers {unit : ExecutionUnit} {encoding : Encoding}
    {syllable : Word} {long : Option Word} {instruction : Instruction}
    (bound : syllable.toNat < 2 ^ 41)
    (found : lookup? unit syllable = some encoding)
    (comparison : encoding.format ∈ [.a6, .a7, .a8, .f4, .f5, .i16, .i17, .i30])
    (reads : encoding.Reads syllable long instruction) :
    (syllable.flip 12).toNat < 2 ^ 41 ∧
      ∃ other flipped, lookup? unit (syllable.flip 12) = some other ∧
        other.format = encoding.format ∧ other.Reads (syllable.flip 12) long flipped ∧
        flipped = { instruction with
          bits := syllable.flip 12, completers := flipped.completers } ∧
        (flipped.completers ≠ instruction.completers ↔ instruction.format ≠ .f5) := by
  obtain ⟨rule, member, admits, rfl⟩ := exists_rule_of_lookup? found
  obtain ⟨complete, unreserved, -, rfl⟩ := extract_eq_ok_iff.mp reads
  obtain ⟨apart, twin, twinMember, twins⟩ := Format.exists_twin member comparison
  -- Apart from the bit the twin has the guards of the rule, so it takes in the flipped syllable.
  have refound := lookup?_of_admits twinMember (Rule.admits_flip twins apart admits)
  have same := twins.format
  refine ⟨?_, twin.encoding,
    .reading twin.encoding.operation rule.encoding.format (syllable.flip 12) long, refound, same,
    ?_, ?_, ?_⟩
  · rw [Word.flip_eq_scatter _ (by decide)]
    exact toNat_scatter_lt (by decide) bound _
  · have admitted := Format.reserved_congr fun reserved listed =>
      agree_flip syllable (Format.reserved_of_comparing comparison reserved listed)
    have few := length_completers_of_lookup? refound
    rw [same] at few
    rw [Encoding.Reads, same]
    exact extract_eq_ok_iff.mpr ⟨complete, admitted.trans unreserved, few, rfl⟩
  · simp only [Instruction.reading, Instruction.mk.injEq, twins.mnemonic, true_and, and_true]
    exact Format.operands_flip comparison ..
  · have shown := Format.completers_flip_iff comparison rule.encoding.operation
      twin.encoding.operation syllable
    rw [twins.completers] at shown
    have lost : (rule.encoding.format ∈ [.f4, .f5] ∧ rule.encoding.format ≠ .f4) ↔
        rule.encoding.format = .f5 := by
      constructor
      · rintro ⟨either, other⟩
        exact List.mem_singleton.mp (List.mem_of_ne_of_mem other either)
      · intro here
        rw [here]
        decide
    exact not_congr (shown.trans lost)

/-- `fcmp` becomes `fcmp.unc`. -/
theorem compare_type_changes_completers_fcmp :
    lookup? .f 0x8000000000 = some ⟨.fcmp, .f4⟩ ∧ (0x8000000000 : Word).flip 12 = 0x8000001000 ∧
      ∃ other flipped, lookup? .f 0x8000001000 = some other ∧ other.format = .f4 ∧
        other.Reads 0x8000001000 none flipped ∧ flipped.mnemonic = .fcmp ∧
        flipped.completers ≠ [⟨.frel, .eq⟩, ⟨.fctype, .none⟩, ⟨.sf, .s0⟩] := by
  have found : lookup? .f 0x8000000000 = some ⟨.fcmp, .f4⟩ := by decide
  have reads : Encoding.Reads ⟨.fcmp, .f4⟩ 0x8000000000 none
      (.reading .fcmp .f4 0x8000000000 none) := rfl
  have flip : (0x8000000000 : Word).flip 12 = 0x8000001000 := by decide
  obtain ⟨_, other, flipped, refound, format, rereads, same, changes⟩ :=
    compare_type_changes_completers (by decide) found (by decide) reads
  rw [flip] at refound rereads
  exact ⟨found, flip, other, flipped, refound, format, rereads, congrArg Instruction.mnemonic same,
    changes.mpr (by decide)⟩

/-- `fclass.m` and `fclass.m.unc` differ in their raw bits only. -/
theorem compare_type_changes_completers_but_fclass :
    lookup? .f 0xA000000000 = some ⟨.fclassM, .f5⟩ ∧
      (0xA000000000 : Word).flip 12 = 0xA000001000 ∧
      lookup? .f 0xA000001000 = some ⟨.fclassM, .f5⟩ ∧
      ∃ first second, extract .fclassM .f5 0xA000000000 none = .ok first ∧
        extract .fclassM .f5 0xA000001000 none = .ok second ∧
        second.completers = first.completers :=
  ⟨by decide, by decide, by decide, _, _, rfl, rfl, rfl⟩

end Itanium
