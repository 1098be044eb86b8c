import Itanium.Proofs.BundleListing
import Itanium.Proofs.Operands

/-!
# A bundle determines its bits

The selector and the syllables of a bundle spell the 128 bits that it is decoded from, and each slot
holds what its unit executes. A record names the template and keeps the syllables, so the bits can be
rebuilt from it, and decoding them gives the recorded bundle again.
-/
namespace Itanium

/-! ### Bytes in memory order -/

namespace RawBundle

/-- The number that bytes spell, the first byte lowest. -/
def number (bytes : List UInt8) : Nat :=
  bytes.foldr (fun byte rest => byte.toNat + 256 * rest) 0

theorem number_lt (bytes : List UInt8) : number bytes < 256 ^ bytes.length := by
  induction bytes with
  | nil => exact Nat.one_pos
  | cons byte rest ih =>
    have low := byte.toNat_lt
    rw [List.length_cons, pow_succ]
    change byte.toNat + 256 * number rest < _
    omega

theorem number_inj {left right : List UInt8} (lengths : left.length = right.length)
    (equal : number left = number right) : left = right := by
  induction left generalizing right with
  | nil => exact (List.length_eq_zero_iff.mp lengths.symm).symm
  | cons byte rest ih =>
    cases right with
    | nil => cases lengths
    | cons byte' rest' =>
      have low := byte.toNat_lt
      have low' := byte'.toNat_lt
      change byte.toNat + 256 * number rest = byte'.toNat + 256 * number rest' at equal
      have bytes : byte = byte' := UInt8.toNat_inj.mp (by omega)
      rw [bytes, ih (Nat.succ.inj lengths) (by omega)]

/-- The bytes of a number, lowest first, spell it as far as they reach. -/
theorem number_ofFn (count value : Nat) :
    number (List.ofFn fun position : Fin count => UInt8.ofNat (value >>> (8 * position.val))) =
      value % 256 ^ count := by
  induction count generalizing value with
  | zero => exact (Nat.mod_one value).symm
  | succ count ih =>
    -- Behind the lowest byte stand the bytes of the quotient.
    have behind (position : Fin count) :
        value >>> (8 * position.succ.val) = (value / 256) >>> (8 * position.val) := by
      rw [Fin.val_succ, Nat.mul_succ, Nat.add_comm, Nat.shiftRight_add,
        Nat.shiftRight_eq_div_pow value 8]
    rw [List.ofFn_succ]
    simp only [behind]
    calc
      (UInt8.ofNat (value >>> 0)).toNat + 256 * number (List.ofFn fun position : Fin count =>
          UInt8.ofNat ((value / 256) >>> (8 * position.val)))
        = value % 256 + 256 * (value / 256 % 256 ^ count) := by
          rw [ih, UInt8.toNat_ofNat', Nat.shiftRight_zero]
      _ = value % 256 ^ (count + 1) := by rw [pow_succ, Nat.mul_comm (256 ^ count), Nat.mod_mul]

theorem toNat_ofBytes (bytes : Vector UInt8 16) : (ofBytes bytes).toNat = number bytes.toList := by
  have bound := number_lt bytes.toList
  rw [Vector.length_toList] at bound
  exact Nat.mod_eq_of_lt bound

theorem ofBytes_toBytes (raw : BitVec 128) : ofBytes (toBytes raw) = raw := by
  apply BitVec.eq_of_toNat_eq
  rw [toNat_ofBytes, toBytes, Vector.toList_ofFn, number_ofFn]
  exact Nat.mod_eq_of_lt raw.isLt

theorem ofBytes_injective : Function.Injective ofBytes := by
  intro left right equal
  have numbers := congrArg BitVec.toNat equal
  rw [toNat_ofBytes, toNat_ofBytes] at numbers
  exact Vector.toList_inj.mp (number_inj (by simp) numbers)

end RawBundle

/-! ### Rebuilding from a record -/

namespace Template

theorem name_injective : Function.Injective name := by
  have checked : ∀ left ∈ all, ∀ right ∈ all,
      left.name.toList = right.name.toList → left = right := by decide
  intro left right equal
  exact checked left left.mem_all right right.mem_all (congrArg String.toList equal)

def ofName? (name : String) : Option Template :=
  all.find? (·.name == name)

theorem ofName?_name (template : Template) : ofName? template.name = some template := by
  unfold ofName?
  cases found : all.find? (·.name == template.name) with
  | none =>
    have missed := List.find?_eq_none.mp found template template.mem_all
    exact absurd (beq_self_eq_true _) missed
  | some other =>
    have same := List.find?_some found
    rw [name_injective (eq_of_beq same)]

end Template

namespace Json

def text? : Json → Option String
  | .text value => some value
  | _ => none

def number? : Json → Option Nat
  | .number value => some value
  | _ => none

def items? : Json → Option (List Json)
  | .list items => some items
  | _ => none

end Json

namespace RawBundle

/-- The bits of a recorded bundle, of which only the template's name and the raw bits are read. -/
def ofRecord? (record : Json) : Option (BitVec 128) := do
  let name ← (← record.member? "template").text?
  let template ← Template.ofName? name
  let slots ← (← record.member? "slots").items?
  match ← slots.mapM fun slot => (slot.member? "raw_bits").bind Json.number? with
  | [first, second, third] => some (BitVec.ofNat 128
      (template.selector + 2 ^ 5 * first + 2 ^ 46 * second + 2 ^ 87 * third))
  | _ => none

end RawBundle

/-! ### Slots and units -/

/-- What may stand in a slot of a unit. Its record leaves format and opcode out together. -/
structure Slot.FitsUnit (slot : Slot) (unit : ExecutionUnit) : Prop where
  longHalf_iff : (∃ bits, slot = .longHalf bits) ↔ unit = .l
  format_letter : ∀ instruction, slot = .decoded instruction →
    instruction.format.unitLetter = unit.letter ∨
      (instruction.format.unitLetter = 'A' ∧ (unit = .m ∨ unit = .i))
  format_null_iff : slot.record.member? "format" = some .null ↔ unit = .l
  opcode_null_iff : slot.record.member? "opcode" = some .null ↔ unit = .l

theorem Slot.fitsUnit_longHalf (bits : Word) : (longHalf bits).FitsUnit .l where
  longHalf_iff := iff_of_true ⟨bits, rfl⟩ rfl
  format_letter := by
    intro _ impossible
    cases impossible
  format_null_iff := iff_of_true rfl rfl
  opcode_null_iff := iff_of_true rfl rfl

theorem Slot.fitsUnit_decoded {instruction : Instruction} {unit : ExecutionUnit}
    (executes : unit ≠ .l) (letter : instruction.format.unitLetter = unit.letter ∨
      (instruction.format.unitLetter = 'A' ∧ (unit = .m ∨ unit = .i))) :
    (decoded instruction).FitsUnit unit where
  longHalf_iff := iff_of_false nofun executes
  format_letter := by
    rintro _ ⟨rfl⟩
    exact letter
  format_null_iff := iff_of_false nofun executes
  opcode_null_iff := iff_of_false nofun executes

/-- A unit is given formats of its own and, if it is M or I, those that both execute. -/
theorem Encoding.unitLetter_of_lookup? {unit : ExecutionUnit} {syllable : Word}
    {encoding : Encoding} (found : OpcodeSpace.lookup? unit syllable = some encoding) :
    encoding.format.unitLetter = unit.letter ∨
      (encoding.format.unitLetter = 'A' ∧ (unit = .m ∨ unit = .i)) := by
  refine OpcodeSpace.of_lookup? (fun unit encoding => encoding.format.unitLetter = unit.letter ∨
    (encoding.format.unitLetter = 'A' ∧ (unit = .m ∨ unit = .i))) ?_ found
  intro unit
  cases unit <;> decide +kernel

namespace Bundle

section Decoded

variable {raw : BitVec 128} {bundle : Bundle} (decodes : decode raw = .ok bundle)

include decodes

theorem bits_of_decode (slot : Fin 3) : (bundle.slots.get slot).bits = slotBits raw slot := by
  have record := records_of_decode decodes slot
  generalize bundle.slots.get slot = recorded at record ⊢
  cases record with
  | longHalf => rfl
  | decoded _ _ extracted =>
    obtain ⟨-, -, -, rfl⟩ := extract_eq_ok_iff.mp extracted
    rfl

theorem fitsUnit_of_decode (slot : Fin 3) :
    (bundle.slots.get slot).FitsUnit (bundle.template.units.get slot) := by
  have record := records_of_decode decodes slot
  generalize bundle.slots.get slot = recorded at record ⊢
  cases record with
  | longHalf unit =>
    rw [unit]
    exact Slot.fitsUnit_longHalf _
  | decoded unit found extracted =>
    obtain ⟨-, -, -, rfl⟩ := extract_eq_ok_iff.mp extracted
    exact Slot.fitsUnit_decoded unit (Encoding.unitLetter_of_lookup? found)

theorem toNat_eq_of_decode : raw.toNat = bundle.template.selector +
    2 ^ 5 * (bundle.slots.get 0).bits.toNat + 2 ^ 46 * (bundle.slots.get 1).bits.toNat +
      2 ^ 87 * (bundle.slots.get 2).bits.toNat := by
  -- Selector and syllables are the remainders and quotients of one number, divided at their limits.
  have bound := raw.isLt
  have slot (slot : Fin 3) :
      (bundle.slots.get slot).bits.toNat = raw.toNat / 2 ^ (5 + 41 * slot.val) % 2 ^ 41 := by
    rw [bits_of_decode decodes, toNat_slotBits]
  have first := slot 0
  have second := slot 1
  have third := slot 2
  have selector := selector_of_decode decodes
  norm_num at first second third
  omega

/-- The record of a bundle is enough to rebuild its bits. -/
theorem ofRecord?_record : RawBundle.ofRecord? bundle.record = some raw := by
  have rawBits (slot : Slot) :
      (slot.record.member? "raw_bits").bind Json.number? = some slot.bits.toNat := by
    cases slot <;> rfl
  have name : bundle.record.member? "template" = some (.text bundle.template.name) := rfl
  have slots : bundle.record.member? "slots" =
      some (.list (bundle.slots.toList.map Slot.record)) := rfl
  have syllables : (bundle.slots.toList.map Slot.record).mapM
      (fun slot => (slot.member? "raw_bits").bind Json.number?) =
        some [(bundle.slots.get 0).bits.toNat, (bundle.slots.get 1).bits.toNat,
          (bundle.slots.get 2).bits.toNat] := by
    rw [toList_slots]
    simp only [List.finRange_succ, List.finRange_zero, List.map_cons, List.map_nil,
      List.mapM_cons, List.mapM_nil, rawBits]
    rfl
  simp only [RawBundle.ofRecord?, name, slots, Json.text?, Json.items?, Template.ofName?_name,
    syllables, Option.bind_eq_bind, Option.bind_some, ← toNat_eq_of_decode decodes,
    BitVec.ofNat_toNat, BitVec.setWidth_eq]

theorem eq_of_decode {other : BitVec 128} (decodesToo : decode other = .ok bundle) :
    other = raw := by
  -- Both are rebuilt from the one record.
  have rebuilt := ofRecord?_record decodesToo
  rw [ofRecord?_record decodes] at rebuilt
  exact (Option.some.inj rebuilt).symm

end Decoded

/-- A bundle spells the bits it is decoded from, in slots that fit their units. No other bits decode
to it, and its record is enough to rebuild them, as a value or as bytes in memory. -/
theorem rebuilt_of_decode {raw : BitVec 128} {bundle : Bundle}
    (decodes : decode raw = .ok bundle) :
    raw.toNat = bundle.template.selector + 2 ^ 5 * (bundle.slots.get 0).bits.toNat +
        2 ^ 46 * (bundle.slots.get 1).bits.toNat + 2 ^ 87 * (bundle.slots.get 2).bits.toNat ∧
      (∀ slot : Fin 3, (bundle.slots.get slot).bits.toNat < 2 ^ 41) ∧
      (∀ slot : Fin 3, (bundle.slots.get slot).FitsUnit (bundle.template.units.get slot)) ∧
      (∀ other, decode other = .ok bundle → other = raw) ∧
      RawBundle.ofRecord? bundle.record = some raw ∧
      ofBytes (RawBundle.toBytes raw) = .ok bundle ∧
      ∀ bytes, ofBytes bytes = .ok bundle → bytes = RawBundle.toBytes raw := by
  refine ⟨toNat_eq_of_decode decodes, ?_, fitsUnit_of_decode decodes,
    fun _ => eq_of_decode decodes, ofRecord?_record decodes, ?_, ?_⟩
  · intro slot
    rw [bits_of_decode decodes]
    exact toNat_slotBits_lt raw slot
  · rw [ofBytes, RawBundle.ofBytes_toBytes, decodes]
  · intro bytes decodesToo
    apply RawBundle.ofBytes_injective
    rw [RawBundle.ofBytes_toBytes]
    exact eq_of_decode decodes decodesToo

/-- The long half of a `brl` is recorded too, with bits that the displacement ignores. -/
theorem rebuilt_of_decode_brl : ∃ bundle,
    decode 0xC0000000000000000000C00000000004 = .ok bundle ∧
      bundle.slots.get 1 = .longHalf 3 ∧
      RawBundle.ofRecord? bundle.record = some 0xC0000000000000000000C00000000004 ∧
      ofBytes #v[0x04, 0, 0, 0, 0, 0xC0, 0, 0, 0, 0, 0, 0, 0, 0, 0, 0xC0] = .ok bundle := by
  have decodes : decode 0xC0000000000000000000C00000000004 = .ok ⟨.mlx, #v[
      .decoded (.reading .breakM .m37 0 none), .longHalf 3,
      .decoded (.reading .brlCond .x3 0x18000000000 (some 3))]⟩ := by decide
  have bytes : RawBundle.toBytes 0xC0000000000000000000C00000000004 =
      #v[0x04, 0, 0, 0, 0, 0xC0, 0, 0, 0, 0, 0, 0, 0, 0, 0, 0xC0] := by decide
  obtain ⟨_, _, _, _, rebuilt, decodesBytes, _⟩ := rebuilt_of_decode decodes
  rw [bytes] at decodesBytes
  exact ⟨_, decodes, rfl, rebuilt, decodesBytes⟩

end Bundle

end Itanium
