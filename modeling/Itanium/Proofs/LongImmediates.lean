import Itanium.Proofs.Composition
import Itanium.Proofs.Listing
import Itanium.Proofs.Overwriting

/-!
# Long immediates

An X syllable and the long half before it spell one number: fields of the syllable, the long half,
and bit 36 or what is left of the fields, with no gap and no overlap. So each 64-bit number is moved
to a register by one pair of syllables only, and each multiple of sixteen is the displacement of a
long branch. Nothing else of a bundle depends on the long half.
-/
namespace Itanium

open BitField Layout

/-! ### What an X syllable spells -/

/-- The bits from `low` to `high` as a number. -/
def Word.bits (word : Word) (low high : Nat) : Nat :=
  word.toNat / 2 ^ low % 2 ^ (high + 1 - low)

theorem Word.bits_eq_read (word : Word) (low high : Nat) :
    word.bits low high = (⟨low, high + 1 - low⟩ : BitField).read word :=
  (read_eq_mod ⟨low, high + 1 - low⟩ word).symm

/-- The operand that an instruction makes of its syllable and the long half before it. -/
inductive Instruction.Splices (instruction : Instruction) (half syllable : Word) : Prop
  | immediate (format : instruction.format ∈ [.x1, .x5])
      (kind : (instruction.operands.get 1).kind = .imm)
      (value : (instruction.operands.get 1).value.toNat =
        syllable.bits 6 25 + 2 ^ 20 * syllable.bits 36 36 + 2 ^ 21 * half.toNat)
  | move (format : instruction.format = .x2)
      (kind : (instruction.operands.get 2).kind = .imm)
      (value : (instruction.operands.get 2).value.toNat =
        syllable.bits 13 19 + 2 ^ 7 * syllable.bits 27 35 + 2 ^ 16 * syllable.bits 22 26 +
          2 ^ 21 * syllable.bits 21 21 + 2 ^ 22 * half.toNat + 2 ^ 63 * syllable.bits 36 36)
  | branch (format : instruction.format = .x3)
      (kind : (instruction.operands.get 1).kind = .disp)
      (value : (instruction.operands.get 1).value.toNat =
        16 * (syllable.bits 13 32 + 2 ^ 20 * (half.toNat / 4) + 2 ^ 59 * syllable.bits 36 36))
  | call (format : instruction.format = .x4)
      (kind : (instruction.operands.get 2).kind = .disp)
      (value : (instruction.operands.get 2).value.toNat =
        16 * (syllable.bits 13 32 + 2 ^ 20 * (half.toNat / 4) + 2 ^ 59 * syllable.bits 36 36))

section Readings

variable {half : Word} (bound : half.toNat < 2 ^ 41)

include bound

theorem read_longHalf : longHalf.read half = half.toNat := by
  rw [longHalf, read_eq_mod, pow_zero, Nat.div_one, Nat.mod_eq_of_lt bound]

/-- A long branch ignores the two low bits. -/
theorem read_branchHalf : (⟨2, 39⟩ : BitField).read half = half.toNat / 4 := by
  rw [read_eq_mod]
  dsimp only
  omega

theorem Instruction.splices_reading (operation : Operation) {format : Format}
    (isLong : format.isLong = true) (syllable : Word) :
    (reading operation format syllable (some half)).Splices half syllable := by
  -- Two layouts are shared: a long number above the short one, and a branch that drops two bits.
  have immediate : ((Quantity.spliced immediate21 longHalf [] 0).value syllable half).toNat =
      syllable.bits 6 25 + 2 ^ 20 * syllable.bits 36 36 + 2 ^ 21 * half.toNat := by
    rw [Quantity.toNat_spliced (by decide)]
    simp only [immediate21, gather, totalWidth, Nat.shiftLeft_eq, read_longHalf bound,
      Word.bits_eq_read, Nat.reduceAdd, Nat.reduceSub]
    omega
  have displacement :
      ((Quantity.spliced [⟨13, 20⟩] ⟨2, 39⟩ [⟨36, 1⟩] 4).value syllable half).toNat =
        16 * (syllable.bits 13 32 + 2 ^ 20 * (half.toNat / 4) + 2 ^ 59 * syllable.bits 36 36) := by
    rw [Quantity.toNat_spliced (by decide)]
    simp only [gather, totalWidth, Nat.shiftLeft_eq, read_branchHalf bound, Word.bits_eq_read,
      Nat.reduceAdd, Nat.reduceSub]
    omega
  cases format
  case x1 => exact .immediate List.mem_cons_self rfl immediate
  case x5 => exact .immediate (List.mem_cons_of_mem _ List.mem_cons_self) rfl immediate
  case x2 =>
    have width : longHalf.width = 41 := rfl
    refine .move rfl rfl ((Quantity.toNat_spliced (by decide) syllable half).trans ?_)
    simp only [gather, totalWidth, Nat.shiftLeft_eq, read_longHalf bound, width,
      Word.bits_eq_read, Nat.reduceAdd, Nat.reduceSub]
    omega
  case x3 => exact .branch rfl rfl displacement
  case x4 => exact .call rfl rfl displacement
  all_goals cases isLong

end Readings

/-! ### Every number can be spelled -/

/-- The long half takes the middle of the number, the fields of the syllable the rest. -/
theorem Layout.Quantity.exists_splice {low high : List BitField} {long : BitField} {scale : Nat}
    (faithful : (spliced low long high scale).isFaithful = true)
    (separate : areSeparate 41 (low ++ high) = true) (fits : areSeparate 41 [long] = true)
    {number : Nat} (bound : number < 2 ^ (totalWidth low + long.width + totalWidth high))
    (base : Word) :
    ∃ spread half, half.toNat < 2 ^ 41 ∧
      ((spliced low long high scale).value (scatter spread base (low ++ high)) half).toNat =
        number * 2 ^ scale := by
  have lowBound : number % 2 ^ totalWidth low < 2 ^ totalWidth low :=
    Nat.mod_lt _ (Nat.two_pow_pos _)
  have highBound : number / 2 ^ (totalWidth low + long.width) < 2 ^ totalWidth high := by
    rw [Nat.div_lt_iff_lt_mul (Nat.two_pow_pos _), ← pow_add, Nat.add_comm (totalWidth high)]
    exact bound
  -- The fields below the long half and those above it are scattered as one number.
  let spread := number % 2 ^ totalWidth low +
    number / 2 ^ (totalWidth low + long.width) * 2 ^ totalWidth low
  let half := scatter (number / 2 ^ totalWidth low) 0 [long]
  have gathered : gather (scatter spread base (low ++ high)) (low ++ high) = spread := by
    rw [gather_scatter (by decide) separate, totalWidth_append]
    exact Nat.mod_eq_of_lt (add_mul_two_pow_lt lowBound highBound)
  rw [gather_append] at gathered
  obtain ⟨lower, higher⟩ := eq_and_eq_of_add_mul_two_pow_eq (gather_lt _ low) lowBound gathered
  have middle : long.read half = number / 2 ^ totalWidth low % 2 ^ long.width := by
    have read := gather_scatter (by decide) fits (number / 2 ^ totalWidth low) 0
    simpa only [gather_singleton, totalWidth, Nat.add_zero] using read
  refine ⟨spread, half, toNat_scatter_lt fits (by decide) _, ?_⟩
  rw [toNat_spliced faithful, lower, higher, middle]
  congr 1
  calc
    number % 2 ^ totalWidth low +
        number / 2 ^ totalWidth low % 2 ^ long.width * 2 ^ totalWidth low +
        number / 2 ^ (totalWidth low + long.width) * 2 ^ (totalWidth low + long.width)
      = number % 2 ^ (totalWidth low + long.width) +
          number / 2 ^ (totalWidth low + long.width) * 2 ^ (totalWidth low + long.width) := by
        rw [pow_add, Nat.mod_mul, Nat.mul_comm (2 ^ totalWidth low) (_ % _)]
    _ = number := Nat.mod_add_div' _ _

/-! ### Moves -/

deriving instance DecidableEq for OpcodeSpace.Rule

namespace OpcodeSpace

/-- The one rule that finds a `movl`. -/
def movlRule : Rule :=
  ⟨[(⟨0, 0⟩, 0), (Word.majorOpcode, 6), (⟨20, 1⟩, 0)], ⟨.movl, .x2⟩⟩

theorem eq_movlRule : ∀ rule ∈ rules .x, rule.encoding.operation = .movl → rule = movlRule := by
  decide +kernel

theorem movlRule_admits {syllable : Word} {encoding : Encoding}
    (found : lookup? .x syllable = some encoding) (move : encoding.operation = .movl) :
    encoding = ⟨.movl, .x2⟩ ∧ movlRule.admits syllable = true := by
  obtain ⟨rule, member, admits, rfl⟩ := exists_rule_of_lookup? found
  obtain rfl := eq_movlRule rule member move
  exact ⟨rfl, admits⟩

end OpcodeSpace

namespace Layout

theorem Source.operand_register (kind : OperandKind) (offset width : Nat) (operation : Operation)
    (syllable long : Word) : (register kind offset width).operand operation syllable long =
      ⟨kind, BitVec.ofNat 64 ((⟨offset, width⟩ : BitField).read syllable)⟩ := by
  rw [operand_of_isPresent (isPresent_of_always rfl)]
  simp [register, KindRule.kind, Quantity.value, Word.gatherUnsigned, gather]

/-- The immediate of a `movl` below its long half. -/
def moveFields : List BitField := [⟨13, 7⟩, ⟨27, 9⟩, ⟨22, 5⟩, ⟨21, 1⟩]

end Layout

theorem Format.operands_movl (syllable half : Word) :
    operands .x2 .movl syllable half = #v[
      ⟨.preg, BitVec.ofNat 64 ((⟨0, 6⟩ : BitField).read syllable)⟩,
      ⟨.greg, BitVec.ofNat 64 ((⟨6, 7⟩ : BitField).read syllable)⟩,
      ⟨.imm, (Quantity.spliced moveFields longHalf [⟨36, 1⟩] 0).value syllable half⟩,
      .absent, .absent, .absent, .absent] := by
  ext1 position room
  match position, room with
  | 0, _ => exact Source.operand_register .preg 0 6 .movl syllable half
  | 1, _ => exact Source.operand_register .greg 6 7 .movl syllable half
  | 2, _ | 3, _ | 4, _ | 5, _ | 6, _ => rfl

/-- Two syllables that are read as a move of the number to the register. -/
structure IsMove (half syllable : Word) (predicate target : Nat) (value : Word) : Prop where
  halfBound : half.toNat < 2 ^ 41
  bound : syllable.toNat < 2 ^ 41
  reads : ∃ encoding instruction, OpcodeSpace.lookup? .x syllable = some encoding ∧
    encoding.operation = .movl ∧ encoding.Reads syllable (some half) instruction ∧
    instruction.operands = #v[⟨.preg, BitVec.ofNat 64 predicate⟩, ⟨.greg, BitVec.ofNat 64 target⟩,
      ⟨.imm, value⟩, .absent, .absent, .absent, .absent]

theorem exists_isMove {predicate target : Nat} (predicateBound : predicate < 64)
    (targetBound : target < 128) (value : Word) :
    ∃ half syllable, IsMove half syllable predicate target value := by
  let registers : List BitField := [⟨0, 6⟩, ⟨6, 7⟩]
  let base := scatter (predicate + target * 2 ^ 6) 0xC000000000 registers
  obtain ⟨spread, half, halfBound, spelled⟩ := Quantity.exists_splice
    (by decide : (Quantity.spliced moveFields longHalf [⟨36, 1⟩] 0).isFaithful = true)
    (by decide) (by decide) value.isLt base
  let syllable := scatter spread base (moveFields ++ [⟨36, 1⟩])
  have separate : areSeparate 41 registers = true := by decide
  have baseBound : base.toNat < 2 ^ 41 := toNat_scatter_lt separate (by decide) _
  -- The rule of the move reads neither the registers nor the immediate.
  have found : OpcodeSpace.lookup? .x syllable = some ⟨.movl, .x2⟩ := by
    refine OpcodeSpace.lookup?_scatter ?_ (OpcodeSpace.lookup?_scatter ?_ (by decide) _) _
    · decide +kernel
    · decide +kernel
  -- The number is spelled beside the registers, which read as they were written.
  have kept : Agree registers syllable base := agree_scatter (by decide) spread base
  have gathered : gather syllable registers = predicate + target * 2 ^ 6 := by
    have small : predicate + target * 2 ^ 6 < 2 ^ 13 := by omega
    rw [gather_congr kept, gather_scatter (by decide) separate]
    exact Nat.mod_eq_of_lt small
  simp only [registers, gather, Nat.shiftLeft_eq, Nat.zero_mul, Nat.add_zero] at gathered
  obtain ⟨readPredicate, readTarget⟩ :=
    eq_and_eq_of_add_mul_two_pow_eq (read_lt _ syllable) predicateBound gathered
  have moved : (Quantity.spliced moveFields longHalf [⟨36, 1⟩] 0).value syllable half = value := by
    apply BitVec.eq_of_toNat_eq
    rw [spelled, pow_zero, Nat.mul_one]
  refine ⟨half, syllable, halfBound, toNat_scatter_lt (by decide) baseBound _, ⟨.movl, .x2⟩, _,
    found, rfl, extract_eq_ok_iff.mpr ⟨fun _ => rfl, rfl, length_completers_of_lookup? found, rfl⟩,
    (Format.operands_movl syllable half).trans ?_⟩
  rw [readPredicate, readTarget, moved]

/-- What is moved, and where to, determines both syllables. -/
theorem IsMove.unique {half syllable half' syllable' : Word} {predicate target : Nat} {value : Word}
    (move : IsMove half syllable predicate target value)
    (move' : IsMove half' syllable' predicate target value) :
    half = half' ∧ syllable = syllable' := by
  obtain ⟨_, _, found, isMove, reads, shown⟩ := move.reads
  obtain ⟨_, _, found', isMove', reads', shown'⟩ := move'.reads
  obtain ⟨rfl, admits⟩ := OpcodeSpace.movlRule_admits found isMove
  obtain ⟨rfl, admits'⟩ := OpcodeSpace.movlRule_admits found' isMove'
  obtain ⟨_, unreserved, _, rfl⟩ := extract_eq_ok_iff.mp reads
  obtain ⟨_, unreserved', _, rfl⟩ := extract_eq_ok_iff.mp reads'
  have operands : Format.operands .x2 .movl syllable half =
      Format.operands .x2 .movl syllable' half' := shown.trans shown'.symm
  obtain ⟨recorded, recordedLong⟩ :=
    Format.read_eq_of_recorded operands rfl unreserved unreserved'
  constructor
  · exact eq_of_covers (Format.covers_longHalf .movl) recordedLong move.halfBound move'.halfBound
  -- Every bit lies in a field that the rule fixes or an operand shows.
  · have covered : covers (OpcodeSpace.movlRule.fields ++ Format.x2.recordedFields .movl) 41 =
        true := by decide
    refine eq_of_covers covered ?_ move.bound move'.bound
    intro field member
    rcases List.mem_append.mp member with inRule | inRecord
    · exact OpcodeSpace.Rule.read_eq_of_admits admits admits' field inRule
    · exact recorded field inRecord

/-! ### Bundles with a long half -/

theorem Template.units_of_selector {template : Template} (long : template.selector ∈ [4, 5]) :
    template.units = #v[.m, .l, .x] := by
  revert long
  cases template <;> decide

namespace Bundle

section Decoded

variable {raw : BitVec 128} {bundle : Bundle} (decodes : decode raw = .ok bundle)
  (long : raw.toNat % 32 ∈ [4, 5])

include decodes long

theorem units_of_long : bundle.template.units = #v[.m, .l, .x] := by
  apply Template.units_of_selector
  rw [selector_of_decode decodes]
  exact long

/-- The X slot holds what its syllable and the long half are read as. -/
theorem exists_long_of_decode : ∃ encoding : Encoding,
    OpcodeSpace.lookup? .x (slotBits raw 2) = some encoding ∧ bundle.slots.get 2 =
      .decoded (.reading encoding.operation encoding.format (slotBits raw 2)
        (some (slotBits raw 1))) := by
  have unit : bundle.template.units.get 2 = .x := by simp [units_of_long decodes long]
  obtain ⟨encoding, found, recorded⟩ := exists_recorded_of_decode decodes unit (by decide)
  rw [Fin.val_two] at found recorded
  rw [pairedBits, if_pos rfl] at recorded
  exact ⟨encoding, found, recorded⟩

theorem exists_splices_of_decode : ∃ instruction, bundle.slots.get 2 = .decoded instruction ∧
    instruction.Splices (slotBits raw 1) (slotBits raw 2) := by
  obtain ⟨encoding, found, recorded⟩ := exists_long_of_decode decodes long
  have isLong := (OpcodeSpace.isLong_iff_of_lookup? found).mpr rfl
  exact ⟨_, recorded, Instruction.splices_reading (toNat_slotBits_lt raw 1) encoding.operation
    isLong (slotBits raw 2)⟩

end Decoded

/-- A long half and an X syllable with an encoding stand in a bundle that decodes. -/
theorem exists_mlx {half syllable : Word} (halfBound : half.toNat < 2 ^ 41)
    (bound : syllable.toNat < 2 ^ 41) {encoding : Encoding}
    (found : OpcodeSpace.lookup? .x syllable = some encoding) : ∃ raw bundle,
      decode raw = .ok bundle ∧ bundle.template = .mlx ∧ bundle.slots.get 2 =
        .decoded (.reading encoding.operation encoding.format syllable (some half)) := by
  obtain ⟨selector, first, second, third⟩ :=
    parts_ofSlots (by decide : 4 < 32) (by decide : (0 : Word).toNat < 2 ^ 41) halfBound bound
  generalize RawBundle.ofSlots 4 0 half syllable = raw at selector first second third
  have long := (OpcodeSpace.isLong_iff_of_lookup? found).mpr rfl
  have unviolated : ¬encoding.format.Violates syllable := by
    rw [← Format.reserved_admits_iff, Format.reserved_of_isLong long]
    rfl
  -- A syllable of zeros is a break, so the first slot is accepted too.
  have middle : OpcodeSpace.lookup? .m 0 = some ⟨.breakM, .m37⟩ := by decide
  have accepts : ∀ slot, Accepts .mlx raw slot
    | 0 => .inr ⟨⟨.breakM, .m37⟩, (congrArg _ first).trans middle, nofun⟩
    | 1 => .inl rfl
    | 2 => .inr ⟨encoding, (congrArg _ third).trans found, third.symm ▸ unviolated⟩
  have assigned : Template.mlx.selector = raw.toNat % 32 := selector.symm
  obtain ⟨bundle, decodes⟩ := (exists_decode_iff assigned).mpr accepts
  have template : bundle.template = .mlx :=
    Template.eq_of_selector_eq ((selector_of_decode decodes).trans selector)
  obtain ⟨encoding', found', recorded⟩ := exists_long_of_decode decodes (by simp [selector])
  rw [third] at found' recorded
  cases found.symm.trans found'
  exact ⟨raw, bundle, decodes, template, second ▸ recorded⟩

/-- There is a `brl` that leads as far as is wanted, in whole bundles. -/
theorem exists_brl {target : Word} (whole : 16 ∣ target.toNat) : ∃ raw bundle instruction,
    decode raw = .ok bundle ∧ bundle.template = .mlx ∧
      bundle.slots.get 2 = .decoded instruction ∧ instruction.mnemonic = .brl ∧
      instruction.operands.get 1 = ⟨.disp, target⟩ := by
  obtain ⟨count, counted⟩ := whole
  have limit := target.isLt
  have small : count < 2 ^ 60 := by omega
  obtain ⟨spread, half, halfBound, spelled⟩ := Quantity.exists_splice
    (by decide : (Quantity.spliced [⟨13, 20⟩] ⟨2, 39⟩ [⟨36, 1⟩] 4).isFaithful = true)
    (by decide) (by decide) small 0x18000000000
  let syllable := scatter spread 0x18000000000 [⟨13, 20⟩, ⟨36, 1⟩]
  have bound : syllable.toNat < 2 ^ 41 := toNat_scatter_lt (by decide) (by decide) _
  have found : OpcodeSpace.lookup? .x syllable = some ⟨.brlCond, .x3⟩ := by
    refine OpcodeSpace.lookup?_scatter ?_ (by decide) _
    decide
  obtain ⟨raw, bundle, decodes, template, recorded⟩ := exists_mlx halfBound bound found
  -- Sixteen times the number that is spelled does not reach the modulus.
  have displacement : (Quantity.spliced [⟨13, 20⟩] ⟨2, 39⟩ [⟨36, 1⟩] 4).value syllable half =
      target := by
    apply BitVec.eq_of_toNat_eq
    rw [counted, Nat.mul_comm]
    exact spelled
  refine ⟨raw, bundle, _, decodes, template, recorded, rfl, ?_⟩
  exact Operand.eq_of_kind_eq rfl displacement

end Bundle

/-! ### What the long half does not decide -/

namespace Bundle

section Same

variable {left right : BitVec 128} (long : left.toNat % 32 ∈ [4, 5])
  (selectors : left.toNat % 32 = right.toNat % 32) (first : slotBits left 0 = slotBits right 0)
  (last : slotBits left 2 = slotBits right 2)

include long selectors first last

/-- Bundles that differ in their long halves only decode alike. -/
theorem exists_decode_congr :
    (∃ bundle, decode left = .ok bundle) ↔ ∃ bundle, decode right = .ok bundle := by
  obtain ⟨template, assigned⟩ : ∃ template : Template, template.selector = left.toNat % 32 := by
    simp only [List.mem_cons, List.not_mem_nil, or_false] at long
    rcases long with four | five
    · exact ⟨.mlx, four.symm⟩
    · exact ⟨.mlx_, five.symm⟩
  have units := Template.units_of_selector (assigned ▸ long)
  rw [exists_decode_iff assigned, exists_decode_iff (assigned.trans selectors)]
  apply forall_congr'
  intro slot
  match slot with
  | 0 => simp only [Accepts, Fin.val_zero, first]
  -- A long half is accepted whatever it holds.
  | 1 => exact iff_of_true (.inl (by simp [units])) (.inl (by simp [units]))
  | 2 => simp only [Accepts, Fin.val_two, last]

variable {leftBundle rightBundle : Bundle} (leftDecodes : decode left = .ok leftBundle)
  (rightDecodes : decode right = .ok rightBundle)

include leftDecodes rightDecodes

theorem slots_congr : leftBundle.slots.get 0 = rightBundle.slots.get 0 ∧
    ∃ instruction instruction', leftBundle.slots.get 2 = .decoded instruction ∧
      rightBundle.slots.get 2 = .decoded instruction' ∧
      instruction' = { instruction with operands := instruction'.operands } := by
  have long' : right.toNat % 32 ∈ [4, 5] := selectors ▸ long
  constructor
  · have unit : leftBundle.template.units.get 0 = .m := by simp [units_of_long leftDecodes long]
    have unit' : rightBundle.template.units.get 0 = .m := by
      simp [units_of_long rightDecodes long']
    obtain ⟨encoding, found, recorded⟩ := exists_recorded_of_decode leftDecodes unit (by decide)
    obtain ⟨encoding', found', recorded'⟩ :=
      exists_recorded_of_decode rightDecodes unit' (by decide)
    rw [Fin.val_zero] at found found' recorded recorded'
    rw [first] at found recorded
    cases found.symm.trans found'
    exact recorded.trans recorded'.symm
  -- Both X slots have the encoding of one syllable, and only the operands read the long half.
  · obtain ⟨encoding, found, recorded⟩ := exists_long_of_decode leftDecodes long
    obtain ⟨encoding', found', recorded'⟩ := exists_long_of_decode rightDecodes long'
    rw [last] at found recorded
    cases found.symm.trans found'
    exact ⟨_, _, recorded, recorded', rfl⟩

end Same

/-- The long immediate of every MLX bundle that decodes is spelled by its two syllables. One pair of
syllables moves a given number to a given register, some long branch leads as far as is wanted, and
of all else that the bundle decodes to nothing depends on the long half. -/
theorem long_immediates_are_spelled :
    (∀ {raw bundle}, decode raw = .ok bundle → raw.toNat % 32 ∈ [4, 5] →
      ∃ instruction, bundle.slots.get 2 = .decoded instruction ∧
        instruction.Splices (slotBits raw 1) (slotBits raw 2)) ∧
    (∀ predicate < 64, ∀ target < 128, ∀ value : Word,
      ∃! pair : Word × Word, IsMove pair.1 pair.2 predicate target value) ∧
    (∀ target : Word, 16 ∣ target.toNat → ∃ raw bundle instruction,
      decode raw = .ok bundle ∧ bundle.template = .mlx ∧
        bundle.slots.get 2 = .decoded instruction ∧ instruction.mnemonic = .brl ∧
        instruction.operands.get 1 = ⟨.disp, target⟩) ∧
    ∀ {left right : BitVec 128}, left.toNat % 32 ∈ [4, 5] → left.toNat % 32 = right.toNat % 32 →
      slotBits left 0 = slotBits right 0 → slotBits left 2 = slotBits right 2 →
      ((∃ bundle, decode left = .ok bundle) ↔ ∃ bundle, decode right = .ok bundle) ∧
        ∀ leftBundle rightBundle, decode left = .ok leftBundle → decode right = .ok rightBundle →
          leftBundle.slots.get 0 = rightBundle.slots.get 0 ∧
            ∃ instruction instruction', leftBundle.slots.get 2 = .decoded instruction ∧
              rightBundle.slots.get 2 = .decoded instruction' ∧
              instruction' = { instruction with operands := instruction'.operands } := by
  refine ⟨exists_splices_of_decode, ?_, fun _ => exists_brl, ?_⟩
  · intro predicate predicateBound target targetBound value
    obtain ⟨half, syllable, move⟩ := exists_isMove predicateBound targetBound value
    refine ⟨(half, syllable), move, ?_⟩
    intro pair move'
    obtain ⟨halves, syllables⟩ := move'.unique move
    exact Prod.ext halves syllables
  · intro left right long selectors first last
    exact ⟨exists_decode_congr long selectors first last,
      fun _ _ leftDecodes rightDecodes =>
        slots_congr long selectors first last leftDecodes rightDecodes⟩

/-- A `movl` with bits of its immediate in every field. -/
theorem long_immediates_are_spelled_movl : ∃ bundle instruction,
    decode 0x69928100A1FEDCBA9876400000000004 = .ok bundle ∧
      (0x69928100A1FEDCBA9876400000000004 : BitVec 128).toNat % 32 ∈ [4, 5] ∧
      bundle.slots.get 2 = .decoded instruction ∧
      (instruction.operands.get 2).value.toNat = 0xFEDCBA9876543210 := by
  have decodes : decode 0x69928100A1FEDCBA9876400000000004 = .ok ⟨.mlx, #v[
      .decoded (.reading .breakM .m37 0 none), .longHalf 0x1FB72EA61D9,
      .decoded (.reading .movl .x2 0xD325020143 (some 0x1FB72EA61D9))]⟩ := by decide
  have long : (0x69928100A1FEDCBA9876400000000004 : BitVec 128).toNat % 32 ∈ [4, 5] := by decide
  obtain ⟨instruction, recorded, splices⟩ := long_immediates_are_spelled.1 decodes long
  obtain rfl : Instruction.reading .movl .x2 0xD325020143 (some 0x1FB72EA61D9) = instruction :=
    Slot.decoded.inj recorded
  refine ⟨_, _, decodes, long, rfl, ?_⟩
  cases splices with
  | move format kind value => exact value.trans (by decide)
  | immediate format => exact absurd format (by decide)
  | branch format => cases format
  | call format => cases format

end Bundle

end Itanium
