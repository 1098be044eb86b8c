import Itanium.Proofs.Listing
import Itanium.Proofs.OperandFrame

/-!
# Displacements

A displacement counts bundles and is shown as an address: sixteen times its number, from where its
own bundle lies. Any number that fits the fields can be written there. The instruction stays as it
is but for this operand, and its text but for the address, which is the sum modulo `2 ^ 64`. Every
displacement of every bundle that decodes is a multiple of sixteen, so bundles at aligned addresses
branch to aligned addresses.
-/
namespace Itanium

open BitField Layout

/-! ### Targets -/

theorem toNat_add_ofInt (address : Word) (value : Int) :
    (address + BitVec.ofInt 64 value).toNat = ((address.toNat + value) % 2 ^ 64).toNat := by
  rw [BitVec.toNat_add, BitVec.toNat_ofInt]
  omega

theorem Operand.text_displacement (value address : Word) :
    Operand.text ⟨.disp, value⟩ address =
      "0x" ++ String.ofList (Nat.toDigits 16 (address + value).toNat) := by
  have digits : Numeral.hex 1 (address + value).toNat =
      String.ofList (Nat.toDigits 16 (address + value).toNat) := by
    rw [← Numeral.toList_hex_one, String.ofList_toList]
  rw [← digits]
  rfl

/-- A displacement in whole bundles leads from a bundle to a bundle. -/
theorem Operand.exists_target {operand : Operand} (kind : operand.kind = .disp)
    (whole : 16 ∣ operand.value.toNat) {address : Word} (aligned : 16 ∣ address.toNat) :
    ∃ target, 16 ∣ target ∧
      operand.text address = "0x" ++ String.ofList (Nat.toDigits 16 target) := by
  obtain ⟨_, value⟩ := operand
  obtain rfl : _ = OperandKind.disp := kind
  refine ⟨(address + value).toNat, ?_, Operand.text_displacement value address⟩
  rw [BitVec.toNat_add, Nat.dvd_mod_iff (by decide)]
  exact Nat.dvd_add aligned whole

theorem Instruction.exists_frame_target (instruction : Instruction) {position : Nat}
    (behind : 0 < position) (room : position < 7) (address : Word) :
    ∃ before after, ∀ (bits : Word) (value : Int),
      (instruction.withOperand bits position ⟨.disp, BitVec.ofInt 64 value⟩).text address =
        before ++ ("0x" ++ String.ofList
          (Nat.toDigits 16 ((address.toNat + value) % 2 ^ 64).toNat)) ++ after := by
  obtain ⟨before, after, frame⟩ := instruction.exists_frame_text behind room address
  refine ⟨before, after, fun bits value => ?_⟩
  have shown := Operand.text_displacement (BitVec.ofInt 64 value) address
  rw [toNat_add_ofInt] at shown
  rw [frame bits ⟨.disp, BitVec.ofInt 64 value⟩ rfl (by simp [shown]), shown]

/-! ### The places of displacements -/

namespace Place

/-- Two formats of a branch predict have the address of the branch in a field of its own. -/
def displacements : List Place :=
  [⟨.b1, 1, [⟨13, 20⟩, ⟨36, 1⟩]⟩, ⟨.b2, 1, [⟨13, 20⟩, ⟨36, 1⟩]⟩, ⟨.b3, 2, [⟨13, 20⟩, ⟨36, 1⟩]⟩,
    ⟨.m22, 2, [⟨13, 20⟩, ⟨36, 1⟩]⟩, ⟨.m23, 2, [⟨13, 20⟩, ⟨36, 1⟩]⟩,
    ⟨.b6, 1, [⟨13, 20⟩, ⟨36, 1⟩]⟩, ⟨.f14, 1, [⟨6, 20⟩, ⟨36, 1⟩]⟩,
    ⟨.i20, 2, [⟨6, 7⟩, ⟨20, 13⟩, ⟨36, 1⟩]⟩, ⟨.m20, 2, [⟨6, 7⟩, ⟨20, 13⟩, ⟨36, 1⟩]⟩,
    ⟨.m21, 2, [⟨6, 7⟩, ⟨20, 13⟩, ⟨36, 1⟩]⟩, ⟨.b6, 2, [⟨6, 7⟩, ⟨33, 2⟩]⟩,
    ⟨.b7, 2, [⟨6, 7⟩, ⟨33, 2⟩]⟩, ⟨.i21, 3, [⟨24, 9⟩]⟩]

theorem isFree_of_mem_displacements : ∀ place ∈ displacements, place.IsFree .disp 4 := by
  decide

theorem isUnruled_of_mem_displacements (unit : ExecutionUnit) :
    ∀ place ∈ displacements, place.IsUnruled unit := by
  cases unit <;> decide +kernel

theorem position_of_mem_displacements : ∀ place ∈ displacements, 0 < place.position := by
  decide

end Place

/-! ### Alignment -/

namespace Layout.Quantity

/-- The number is shifted at least so far. -/
def isScaled (scale : Nat) : Quantity → Bool
  | signed _ shift | spliced _ _ _ shift => scale ≤ shift
  | _ => false

theorem dvd_toNat_shiftLeft (word : Word) {scale shift : Nat} (scaled : scale ≤ shift)
    (narrow : scale ≤ 64) : 2 ^ scale ∣ (word <<< shift).toNat := by
  rw [BitVec.toNat_shiftLeft, Nat.shiftLeft_eq, Nat.dvd_mod_iff (pow_dvd_pow 2 narrow)]
  exact Dvd.dvd.mul_left (pow_dvd_pow 2 scaled) _

theorem dvd_toNat_value {quantity : Quantity} {scale : Nat}
    (scaled : quantity.isScaled scale = true) (narrow : scale ≤ 64) (syllable long : Word) :
    2 ^ scale ∣ (quantity.value syllable long).toNat := by
  cases quantity with
  | signed fields shift => exact dvd_toNat_shiftLeft _ (of_decide_eq_true scaled) narrow
  | spliced low field high shift => exact dvd_toNat_shiftLeft _ (of_decide_eq_true scaled) narrow
  | _ => cases scaled

end Layout.Quantity

namespace Encoding

/-- Where an operand can be a displacement, it counts bundles, and its place is known. -/
def CountsBundles (encoding : Encoding) : Prop :=
  ∀ position < 7, ∀ source ∈ (encoding.format.operandSources encoding.operation)[position]?,
    .disp ∈ source.kinds encoding.operation → source.quantity.isScaled 4 = true ∧
      (encoding.format ∈ [.x3, .x4] ∨
        ∃ place ∈ Place.displacements, place.format = encoding.format ∧ place.position = position)

instance (encoding : Encoding) : Decidable encoding.CountsBundles :=
  inferInstanceAs (Decidable (∀ _ < 7, _))

theorem countsBundles_of_lookup? {unit : ExecutionUnit} {syllable : Word} {encoding : Encoding}
    (found : OpcodeSpace.lookup? unit syllable = some encoding) : encoding.CountsBundles := by
  refine OpcodeSpace.of_lookup? (fun _ encoding => encoding.CountsBundles) ?_ found
  intro unit
  cases unit <;> decide +kernel

theorem displacement_of_kind {unit : ExecutionUnit} {syllable : Word} {encoding : Encoding}
    (found : OpcodeSpace.lookup? unit syllable = some encoding) {long : Word} {position : Nat}
    {operand : Operand}
    (shown : (encoding.format.operands encoding.operation syllable long)[position]? = some operand)
    (kind : operand.kind = .disp) :
    (encoding.format ∈ [.x3, .x4] ∨ ∃ place ∈ Place.displacements,
        place.format = encoding.format ∧ place.position = position) ∧
      16 ∣ operand.value.toNat := by
  obtain ⟨room, rfl⟩ := Vector.getElem?_eq_some_iff.mp shown
  cases listed : (encoding.format.operandSources encoding.operation)[position]? with
  | none =>
    rw [Format.getElem_operands _ _ _ _ room, listed] at kind
    cases kind
  | some source =>
    rw [Format.operands_of_operandSources listed _ _ room] at kind ⊢
    by_cases present : source.isPresent syllable = true
    · rw [Source.operand_of_isPresent present] at kind ⊢
      have member : .disp ∈ source.kinds encoding.operation :=
        kind ▸ source.kind_mem_kinds encoding.operation syllable
      obtain ⟨scaled, place⟩ := countsBundles_of_lookup? found position room source listed member
      exact ⟨place, Quantity.dvd_toNat_value scaled (by decide) syllable long⟩
    · rw [Source.operand, if_neg present] at kind
      cases kind

end Encoding

/-- Whatever number fits the fields of a displacement can be written there: the syllable keeps its
encoding, and what it is read as differs in this operand and is written with the address that it
leads to. Every displacement of a bundle that decodes has such a place, or belongs to a long branch,
and leads from aligned addresses to aligned addresses. -/
theorem displacements_count_bundles :
    (∀ {unit : ExecutionUnit} {encoding : Encoding} {syllable : Word} {long : Option Word}
        {instruction : Instruction} {place : Place}, syllable.toNat < 2 ^ 41 →
      OpcodeSpace.lookup? unit syllable = some encoding →
      encoding.Reads syllable long instruction →
      place ∈ Place.displacements → place.format = encoding.format →
      (∀ value, FitsSigned place.width value →
        (place.overwrite value syllable).toNat < 2 ^ 41 ∧
        OpcodeSpace.lookup? unit (place.overwrite value syllable) = some encoding ∧
        encoding.Reads (place.overwrite value syllable) long
          (instruction.withOperand (place.overwrite value syllable) place.position
            ⟨.disp, BitVec.ofInt 64 (16 * value)⟩)) ∧
      ∀ address, ∃ before after, ∀ value, FitsSigned place.width value →
        (instruction.withOperand (place.overwrite value syllable) place.position
            ⟨.disp, BitVec.ofInt 64 (16 * value)⟩).text address =
          before ++ ("0x" ++ String.ofList
            (Nat.toDigits 16 ((address.toNat + 16 * value) % 2 ^ 64).toNat)) ++ after) ∧
    ∀ {raw : BitVec 128} {bundle : Bundle}, Bundle.decode raw = .ok bundle →
      ∀ slot instruction, bundle.slots.get slot = .decoded instruction →
      ∀ position operand, instruction.operands[position]? = some operand → operand.kind = .disp →
        (instruction.format ∈ [.x3, .x4] ∨ ∃ place ∈ Place.displacements,
          place.format = instruction.format ∧ place.position = position) ∧
        16 ∣ operand.value.toNat ∧
        ∀ address : Word, 16 ∣ address.toNat → ∃ target, 16 ∣ target ∧
          operand.text address = "0x" ++ String.ofList (Nat.toDigits 16 target) := by
  refine ⟨?_, ?_⟩
  · intro unit encoding syllable long instruction place bound found reads listed placed
    have free := Place.isFree_of_mem_displacements place listed
    refine ⟨fun value fits => ⟨toNat_scatter_lt free.separate bound _, ?_, ?_⟩, ?_⟩
    · have unruled := Place.isUnruled_of_mem_displacements unit place listed
      exact Place.lookup?_overwrite placed unruled found value
    · have written := Place.reads_overwrite placed free reads fits
      rwa [show value * 2 ^ 4 = 16 * value by omega] at written
    · intro address
      obtain ⟨before, after, frame⟩ :=
        instruction.exists_frame_target (Place.position_of_mem_displacements place listed) free.room
          address
      exact ⟨before, after, fun value _ => frame _ (16 * value)⟩
  · intro raw bundle decodes slot instruction recorded position operand shown kind
    obtain ⟨encoding, found, rfl⟩ := Bundle.exists_reading_of_decode decodes recorded
    obtain ⟨place, whole⟩ := Encoding.displacement_of_kind found shown kind
    exact ⟨place, whole, fun address aligned => Operand.exists_target kind whole aligned⟩

/-- A branch to the bundle before the first one leads to the end of the address space. -/
theorem displacements_count_bundles_back :
    OpcodeSpace.lookup? .b 0x8000000000 = some ⟨.brCond, .b1⟩ ∧ FitsSigned 21 (-1) ∧
      OpcodeSpace.lookup? .b 0x91FFFFE000 = some ⟨.brCond, .b1⟩ ∧
      ∃ instruction, extract .brCond .b1 0x91FFFFE000 none = .ok instruction ∧
        instruction.operands.get 1 = ⟨.disp, 0xFFFFFFFFFFFFFFF0⟩ ∧
        ∃ before after, instruction.text 0 = before ++ "0xfffffffffffffff0" ++ after := by
  let place : Place := ⟨.b1, 1, [⟨13, 20⟩, ⟨36, 1⟩]⟩
  have found : OpcodeSpace.lookup? .b 0x8000000000 = some ⟨.brCond, .b1⟩ := by decide
  have reads : Encoding.Reads ⟨.brCond, .b1⟩ 0x8000000000 none
      (.reading .brCond .b1 0x8000000000 none) := rfl
  have fits : FitsSigned 21 (-1) := by decide
  have listed : place ∈ Place.displacements := by simp [place, Place.displacements]
  have syllable : place.overwrite (-1) 0x8000000000 = 0x91FFFFE000 := by decide
  obtain ⟨written, texts⟩ :=
    displacements_count_bundles.1 (by decide) found reads listed rfl
  obtain ⟨before, after, text⟩ := texts 0
  obtain ⟨_, lookup, rereads⟩ := written (-1) fits
  have target := text (-1) fits
  rw [syllable] at lookup rereads target
  exact ⟨found, fits, lookup, _, rereads, rfl, before, after, target⟩

end Itanium
