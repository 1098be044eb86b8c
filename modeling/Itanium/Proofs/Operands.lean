import Itanium.Proofs.Listing
import Itanium.Record

/-!
# The operands of an instruction

The operands of every instruction of a bundle that decodes are laid out alike: the qualifying
predicate, then the operands that are present, then absent ones. The number of a register fits its
file, and a register of which there is only one has no number. An absent operand has no value, so the
operands that are recorded, without the absent ones behind them, determine all seven.
-/
namespace Itanium

open BitField Layout

/-! ### Register numbers -/

/-- A bound for the values of the kinds that are not numbers of their own. -/
def OperandKind.limit? : OperandKind → Option Nat
  | .preg => some 64
  | .breg => some 8
  | .greg | .freg | .areg | .creg | .mem | .cpuid | .dbr | .dtr | .ibr | .itr | .msr | .pkr | .pmc
  | .pmd | .rr => some 128
  | .none | .ip | .pr | .prRot | .psr | .psrL | .psrUm => some 1
  | .imm | .disp => .none

def Operand.IsInRange (operand : Operand) : Prop :=
  ∀ limit ∈ operand.kind.limit?, operand.value.toNat < limit

theorem Operand.isInRange_absent : Operand.absent.IsInRange := by
  rintro _ ⟨rfl⟩
  exact Nat.one_pos

/-- An absent operand has no value either. -/
theorem Operand.eq_absent {operand : Operand} (inRange : operand.IsInRange)
    (absent : operand.isAbsent = true) : operand = .absent := by
  have kind : operand.kind = .none := eq_of_beq absent
  have value := inRange 1 (by rw [kind]; rfl)
  exact Operand.eq_of_kind_eq kind (BitVec.eq_of_toNat_eq (Nat.lt_one_iff.mp value))

namespace Layout

/-- Every value of the quantity is below the limit. -/
def Quantity.isBelow (limit : Nat) : Quantity → Bool
  | fixed value => value < limit
  | unsigned fields 0 => 2 ^ totalWidth fields ≤ limit
  | _ => false

theorem Quantity.toNat_value_lt {quantity : Quantity} {limit : Nat}
    (below : quantity.isBelow limit = true) (syllable long : Word) :
    (quantity.value syllable long).toNat < limit := by
  unfold isBelow at below
  split at below
  next value =>
    exact Nat.lt_of_le_of_lt (Nat.mod_le _ _) (of_decide_eq_true below)
  next fields =>
    have bound := gather_lt syllable fields
    calc
      (syllable.gatherUnsigned fields <<< 0).toNat ≤ gather syllable fields := by
        rw [BitVec.shiftLeft_zero, Word.gatherUnsigned, BitVec.toNat_ofNat]
        exact Nat.mod_le _ _
      _ < limit := Nat.lt_of_lt_of_le bound (of_decide_eq_true below)
  next => cases below

namespace Source

/-- The quantity is below the limit of every kind that the operand can have. -/
def isInRange (source : Source) (operation : Operation) : Bool :=
  (source.kinds operation).all fun kind => kind.limit?.all source.quantity.isBelow

variable {source : Source} {operation : Operation}

theorem isInRange_operand (inRange : source.isInRange operation = true) (syllable long : Word) :
    (source.operand operation syllable long).IsInRange := by
  by_cases present : source.isPresent syllable = true
  · rw [operand_of_isPresent present]
    intro limit listed
    have below := List.all_eq_true.mp inRange _ (source.kind_mem_kinds operation syllable)
    exact Quantity.toNat_value_lt ((Option.all_eq_true _ _).mp below limit listed) syllable long
  · rw [operand, if_neg present]
    exact Operand.isInRange_absent

/-- The qualifying predicate is the low six bits. -/
theorem operand_predicate (operation : Operation) (syllable long : Word) :
    (predicate 0).operand operation syllable long =
      ⟨.preg, (syllable.extractLsb' 0 6).setWidth 64⟩ := by
  refine Operand.eq_of_kind_eq rfl (BitVec.eq_of_toNat_eq ?_)
  have bound := (syllable.extractLsb' 0 6).isLt
  have read := (⟨0, 6⟩ : BitField).read_eq_extract syllable
  calc
    ((predicate 0).operand operation syllable long).value.toNat
      = (syllable.gatherUnsigned [⟨0, 6⟩]).toNat :=
        congrArg BitVec.toNat (BitVec.shiftLeft_zero _)
    _ = (syllable.extractLsb' 0 6).toNat := by
        rw [Word.toNat_gatherUnsigned _ (by decide), gather_singleton, read]
    _ = ((syllable.extractLsb' 0 6).setWidth 64).toNat := by
        rw [BitVec.toNat_setWidth, Nat.mod_eq_of_lt (by omega)]

end Source

end Layout

namespace Encoding

variable {unit : ExecutionUnit} {syllable : Word} {encoding : Encoding}

theorem isInRange_of_lookup? (found : OpcodeSpace.lookup? unit syllable = some encoding) :
    (encoding.format.operandSources encoding.operation).all (·.isInRange encoding.operation) =
      true := by
  refine OpcodeSpace.of_lookup? (fun _ encoding =>
    (encoding.format.operandSources encoding.operation).all (·.isInRange encoding.operation) =
      true) ?_ found
  intro unit
  cases unit <;> decide +kernel

theorem isInRange_operands (found : OpcodeSpace.lookup? unit syllable = some encoding)
    (long : Word) : ∀ operand ∈
      (encoding.format.operands encoding.operation syllable long).toList, operand.IsInRange := by
  intro operand member
  rw [Format.toList_operands] at member
  rcases List.mem_append.mp member with sourced | absent
  · obtain ⟨source, listed, rfl⟩ := List.mem_map.mp sourced
    exact Source.isInRange_operand (List.all_eq_true.mp (isInRange_of_lookup? found) source listed)
      syllable long
  · rw [List.eq_of_mem_replicate absent]
    exact Operand.isInRange_absent

theorem get_zero_operands (encoding : Encoding) (syllable long : Word) :
    (encoding.format.operands encoding.operation syllable long).get 0 =
      if encoding.format ∈ [.b6, .b7] then .absent
      else ⟨.preg, (syllable.extractLsb' 0 6).setWidth 64⟩ := by
  rw [Vector.get_eq_getElem, Format.getElem_operands _ _ _ _ (Fin.isLt 0), Format.operandSources,
    Fin.val_zero, List.getElem?_cons_zero, Option.map_some, Option.getD_some]
  by_cases predict : encoding.format ∈ [.b6, .b7]
  · have unpredicated : ¬encoding.format.isPredicated = true := by
      rw [encoding.format.isPredicated_iff, not_not]
      exact predict
    rw [if_neg unpredicated, if_pos predict]
    rfl
  · rw [if_pos (encoding.format.isPredicated_iff.mpr predict), if_neg predict]
    exact Source.operand_predicate ..

end Encoding

/-! ### Present and absent operands -/

namespace Instruction

variable {instruction : Instruction}

/-- Behind the predicate no operand stands behind an absent one. -/
theorem IsListable.contiguous (listable : instruction.IsListable) :
    ∃ count ≤ 6, ∀ position (room : position < 7), 0 < position →
      (position ≤ count → instruction.operands[position].kind ≠ .none) ∧
        (count < position → instruction.operands[position] = .absent) := by
  obtain ⟨shown, absent, isShown, tail⟩ := listable.operands
  have total : shown.length + absent = 6 := by
    have lengths := congrArg List.length tail
    simpa using lengths.symm
  refine ⟨shown.length, by omega, ?_⟩
  intro position room positive
  obtain ⟨index, rfl⟩ : ∃ index, position = index + 1 := ⟨position - 1, by omega⟩
  have found : (shown ++ List.replicate absent .absent)[index]? =
      some instruction.operands[index + 1] := by
    rw [← tail]
    simp
  constructor
  · intro within
    rw [List.getElem?_append_left (by omega)] at found
    exact (isShown _ (List.mem_of_getElem? found)).1
  · intro behind
    rw [List.getElem?_append_right (by omega)] at found
    exact List.eq_of_mem_replicate (List.mem_of_getElem? found)

/-- Filling up with absent operands undoes the cut behind the last one that is present. -/
theorem usedOperands_append_replicate
    (inRange : ∀ operand ∈ instruction.operands.toList, operand.IsInRange) :
    instruction.usedOperands ++ List.replicate (7 - instruction.usedOperands.length) .absent =
      instruction.operands.toList := by
  have split : instruction.usedOperands ++ instruction.operands.toList.rtakeWhile Operand.isAbsent =
      instruction.operands.toList := List.rdropWhile_append_rtakeWhile ..
  have absent : ∀ operand ∈ instruction.operands.toList.rtakeWhile Operand.isAbsent,
      operand = .absent := by
    intro operand member
    have listed := (List.rtakeWhile_suffix Operand.isAbsent _).subset member
    exact Operand.eq_absent (inRange operand listed) (List.mem_rtakeWhile_imp member)
  have lengths := congrArg List.length split
  rw [List.length_append, Vector.length_toList] at lengths
  have behind : 7 - instruction.usedOperands.length =
      (instruction.operands.toList.rtakeWhile Operand.isAbsent).length := by omega
  rw [behind, ← List.eq_replicate_of_mem absent, split]

end Instruction

/-! ### Recorded operands -/

def Json.member? (name : String) : Json → Option Json
  | .record members => members.lookup name
  | _ => none

theorem OperandKind.text_inj {left right : OperandKind} (equal : left.text = right.text) :
    left = right :=
  numbering.inj_of_distinct (fun kind => textNumber kind.text.toList) (by decide)
    (congrArg (fun text => textNumber text.toList) equal)

theorem Operand.record_injective : Function.Injective Operand.record := by
  intro left right equal
  simp only [record, Json.record.injEq, List.cons.injEq, Prod.mk.injEq, Json.text.injEq,
    Json.number.injEq, true_and, and_true] at equal
  exact Operand.eq_of_kind_eq (OperandKind.text_inj equal.1) (BitVec.eq_of_toNat_eq equal.2)

/-- The record of the instruction lists the operands. -/
def Instruction.RecordsOperands (instruction : Instruction) (listed : List Operand) : Prop :=
  instruction.record.member? "operands" = some (.list (listed.map Operand.record))

theorem Instruction.recordsOperands_iff {instruction : Instruction} {listed : List Operand} :
    instruction.RecordsOperands listed ↔ listed = instruction.usedOperands := by
  have member : instruction.record.member? "operands" =
      some (.list (instruction.usedOperands.map Operand.record)) := rfl
  rw [RecordsOperands, member, Option.some.injEq, Json.list.injEq,
    List.map_inj_right Operand.record_injective, eq_comm]

/-! ### The operands of a bundle -/

namespace Bundle

/-- The predicate comes first unless the instruction is a branch predict, no operand stands behind
an absent one, every value is in the range of its kind, and what is recorded determines all seven
operands. -/
theorem operands_of_decode {raw : BitVec 128} {bundle : Bundle}
    (decodes : decode raw = .ok bundle) {slot : Fin 3} {instruction : Instruction}
    (recorded : bundle.slots.get slot = .decoded instruction) :
    instruction.operands.get 0 =
        (if instruction.format ∈ [.b6, .b7] then .absent
          else ⟨.preg, ((slotBits raw slot).extractLsb' 0 6).setWidth 64⟩) ∧
      (∃ count ≤ 6, ∀ position (room : position < 7), 0 < position →
        (position ≤ count → instruction.operands[position].kind ≠ .none) ∧
          (count < position → instruction.operands[position] = .absent)) ∧
      (∀ operand ∈ instruction.operands.toList, operand.IsInRange) ∧
      (∃ listed, instruction.RecordsOperands listed) ∧
      ∀ listed, instruction.RecordsOperands listed →
        listed ++ List.replicate (7 - listed.length) .absent = instruction.operands.toList := by
  obtain ⟨encoding, found, rfl⟩ := exists_reading_of_decode decodes recorded
  have listable := Encoding.isListable_record found
    (pairedBits (bundle.template.units.get slot) raw)
  have inRange := Encoding.isInRange_operands found
    ((pairedBits (bundle.template.units.get slot) raw).getD 0)
  refine ⟨encoding.get_zero_operands .., listable.contiguous, inRange,
    ⟨_, Instruction.recordsOperands_iff.mpr rfl⟩, ?_⟩
  intro listed records
  rw [Instruction.recordsOperands_iff.mp records]
  exact Instruction.usedOperands_append_replicate inRange

/-- A load of 16 bytes has an operand more than other loads, and three absent ones behind it. -/
theorem operands_of_decode_ld16 : ∃ bundle, decode 0x1141FE03FFE0 = .ok bundle ∧
    ∃ instruction, bundle.slots.get 0 = .decoded instruction ∧
      instruction.operands.get 0 = ⟨.preg, 63⟩ ∧
      instruction.RecordsOperands [⟨.preg, 63⟩, ⟨.greg, 127⟩, ⟨.areg, 25⟩, ⟨.mem, 127⟩] ∧
      [⟨.preg, 63⟩, ⟨.greg, 127⟩, ⟨.areg, 25⟩, ⟨.mem, 127⟩] ++ List.replicate 3 .absent =
        instruction.operands.toList := by
  have decodes : decode 0x1141FE03FFE0 = .ok ⟨.mii, #v[.decoded (.reading .ld16 .m1 0x8A0FF01FFF none),
      .decoded (.reading .breakI .i19 0 none), .decoded (.reading .breakI .i19 0 none)]⟩ := by
    decide
  obtain ⟨first, _, _, _, padded⟩ :=
    @operands_of_decode _ _ decodes 0 (.reading .ld16 .m1 0x8A0FF01FFF none) rfl
  have records : (Instruction.reading .ld16 .m1 0x8A0FF01FFF none).RecordsOperands
      [⟨.preg, 63⟩, ⟨.greg, 127⟩, ⟨.areg, 25⟩, ⟨.mem, 127⟩] :=
    Instruction.recordsOperands_iff.mpr (by decide)
  exact ⟨_, decodes, _, rfl, first, records, padded _ records⟩

end Bundle

end Itanium
