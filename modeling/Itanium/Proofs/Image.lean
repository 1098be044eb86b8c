import Itanium.Image
import Mathlib

/-!
# Addresses in an image

Bytes are taken as an image if their address is aligned and no complete bundle lies beyond the top of
the address space. The tests are made on words: what they say of numbers is derived first, with no
sum or difference wrapping around. The addresses of the bundles then do not wrap around either, and
so iterating over the bundles and looking one up by an address in it agree, up to the last address
of all.
-/
namespace Itanium

/-! ### Checked arithmetic -/

namespace Word

/-- A sum of two words that wraps around is below either of them. -/
theorem add_lt_iff (left right : Word) :
    left + right < left ↔ 2 ^ 64 ≤ left.toNat + right.toNat := by
  have leftBound := left.isLt
  have rightBound := right.isLt
  rw [BitVec.lt_def, BitVec.toNat_add]
  omega

theorem checkedAdd_eq_none_iff (left right : Word) :
    checkedAdd left right = none ↔ 2 ^ 64 ≤ left.toNat + right.toNat := by
  rw [← add_lt_iff, checkedAdd]
  split <;> simp [*]

theorem checkedSub_of_lt {left right : Word} (below : left < right) :
    checkedSub left right = none :=
  if_pos below

theorem checkedSub_of_le {left right : Word} (above : right ≤ left) :
    checkedSub left right = some (left - right) :=
  if_neg (BitVec.not_lt.mpr above)

end Word

namespace Image

theorem toNat_completeSize {length : Nat} (small : length < 2 ^ 64) :
    (completeSize length).toNat = 16 * (length / 16) := by
  rw [completeSize, BitVec.toNat_ofNat]
  omega

/-- The last byte is looked for, not the address behind it, so bytes may end with the last address of
all, and no bytes fit anywhere. -/
theorem runsPast_iff (base : Word) {length : Nat} (small : length < 2 ^ 64) :
    runsPast base (completeSize length) = true ↔ 2 ^ 64 < base.toNat + 16 * (length / 16) := by
  have size := toNat_completeSize small
  have bound := base.isLt
  rw [runsPast, Bool.and_eq_true, decide_eq_true_iff, Option.isNone_iff_eq_none,
    Word.checkedAdd_eq_none_iff, BitVec.lt_def, size]
  -- Without a complete bundle there is no last byte, and the first test has the answer.
  by_cases some : 16 ≤ length
  · have one : (1 : Word) ≤ completeSize length := by
      rw [BitVec.le_def, size]
      change 1 ≤ _
      omega
    rw [BitVec.toNat_sub_of_le one, size]
    change 0 < _ ∧ _ ≤ _ + (_ - 1) ↔ _
    omega
  · constructor
    · rintro ⟨positive, _⟩
      change 0 < _ at positive
      omega
    · intro beyond
      omega

/-! ### Aligned addresses -/

theorem aligned_iff (base : Word) : base % 16 = 0 ↔ base.toNat % 16 = 0 := by
  rw [← BitVec.toNat_inj, BitVec.toNat_umod]
  rfl

theorem bundleAddress_aligned (address : Word) : (bundleAddress address).toNat % 16 = 0 := by
  rw [toNat_bundleAddress, Nat.mul_mod_right]

/-! ### The bundles in order -/

section Bundles

variable (image : Image)

theorem toNat_base_mod : image.base.toNat % 16 = 0 :=
  (aligned_iff image.base).mp image.aligned

theorem end_le : image.base.toNat + 16 * image.bundleCount ≤ 2 ^ 64 := by
  rw [← Nat.not_lt, bundleCount, ← runsPast_iff image.base image.addressable, image.fits]
  exact Bool.false_ne_true

theorem toNat_size : image.size.toNat = 16 * image.bundleCount := by
  have small : image.bytes.size < 2 ^ 64 := image.addressable
  rw [size, BitVec.toNat_ofNat, bundleCount]
  omega

/-- No address wraps around, since the image ends within the address space. -/
theorem toNat_address {index : Nat} (inside : index < image.bundleCount) :
    (image.address index).toNat = image.base.toNat + 16 * index := by
  have bound := image.end_le
  rw [address, BitVec.toNat_add, BitVec.toNat_ofNat]
  omega

theorem length_bundles : image.bundles.length = image.bundleCount := by
  rw [bundles, List.length_map, List.length_finRange]

theorem getElem_bundles {index : Nat} (listed : index < image.bundles.length) :
    image.bundles[index] =
      (image.address index, image.chunk ⟨index, image.length_bundles ▸ listed⟩) := by
  simp [bundles]

theorem toNat_getElem_bundles {index : Nat} (listed : index < image.bundles.length) :
    image.bundles[index].1.toNat = image.base.toNat + 16 * index := by
  rw [getElem_bundles]
  exact image.toNat_address (image.length_bundles ▸ listed)

theorem mem_bundles_iff {bundle : Word × Vector UInt8 16} :
    bundle ∈ image.bundles ↔
      ∃ index : Fin image.bundleCount, bundle = (image.address index, image.chunk index) := by
  simp [bundles, eq_comm]

theorem map_fst_bundles :
    image.bundles.map (·.1) = (List.range image.bundleCount).map image.address := by
  apply List.ext_getElem
  · simp [length_bundles]
  · intro index listed _
    simp [getElem_bundles]

/-- A bundle is the sixteen bytes at its place, all of which the image has. -/
theorem toArray_chunk (index : Fin image.bundleCount) :
    16 * index.val + 16 ≤ image.bytes.size ∧
      (image.chunk index).toArray = image.bytes.extract (16 * index) (16 * index + 16) := by
  have room : 16 * index.val + 16 ≤ image.bytes.size := by
    have inside : index.val < image.bytes.size / 16 := index.isLt
    omega
  exact ⟨room, rfl⟩

/-- Sixteen bytes before the end of the last bundle is where it begins. -/
theorem lastBundle?_eq : image.lastBundle? =
    if image.bundleCount = 0 then none else some (image.address (image.bundleCount - 1)) := by
  have size := image.toNat_size
  rw [lastBundle?]
  split
  next none =>
    have below : image.size < 16 := by
      rw [BitVec.lt_def, size, none]
      decide
    rw [Word.checkedSub_of_lt below]
    rfl
  next some =>
    have above : (16 : Word) ≤ image.size := by
      rw [BitVec.le_def, size]
      change 16 ≤ _
      omega
    -- At least one bundle is there, so the difference is that of the numbers.
    have offset : image.size - 16 = BitVec.ofNat 64 ((image.bundleCount - 1) * 16) := by
      have bound := image.end_le
      apply BitVec.eq_of_toNat_eq
      rw [BitVec.toNat_sub_of_le above, size, BitVec.toNat_ofNat]
      change _ - 16 = _
      omega
    rw [Word.checkedSub_of_le above, Option.map_some, offset, address]

end Bundles

/-! ### Looking up an address -/

section Lookup

variable {image : Image} {address : Word}

/-- An aligned address is that of one bundle at most, whose index is the distance from the base. -/
theorem address_eq_iff {start : Word} (aligned : start.toNat % 16 = 0)
    (index : Fin image.bundleCount) :
    image.address index = start ↔
      image.base.toNat ≤ start.toNat ∧ (start.toNat - image.base.toNat) / 16 = index := by
  -- Base and start are both multiples of sixteen, so the division is exact.
  have base := image.toNat_base_mod
  rw [← BitVec.toNat_inj, image.toNat_address index.isLt]
  omega

/-- The tests on words say whether the distance from the base is that of a bundle. -/
theorem inside_iff : ¬(bundleAddress address < image.base ∨
      image.size ≤ bundleAddress address - image.base) ↔
    image.base.toNat ≤ (bundleAddress address).toNat ∧
      ((bundleAddress address).toNat - image.base.toNat) / 16 < image.bundleCount := by
  rw [not_or, BitVec.not_lt, BitVec.not_le]
  constructor
  · rintro ⟨above, below⟩
    rw [BitVec.lt_def, BitVec.toNat_sub_of_le above, toNat_size] at below
    exact ⟨BitVec.le_def.mp above, by omega⟩
  · rintro ⟨above, below⟩
    have above : image.base ≤ bundleAddress address := BitVec.le_def.mpr above
    refine ⟨above, ?_⟩
    rw [BitVec.lt_def, BitVec.toNat_sub_of_le above, toNat_size]
    omega

theorem bundleAt_of_address_eq {index : Fin image.bundleCount}
    (same : image.address index = bundleAddress address) :
    image.bundleAt address = .ok (image.chunk index) := by
  obtain ⟨above, distance⟩ := (address_eq_iff (bundleAddress_aligned address) index).mp same
  have inside := inside_iff.mpr ⟨above, distance.symm ▸ index.isLt⟩
  have base := image.toNat_base_mod
  have aligned := bundleAddress_aligned address
  have offset : (bundleAddress address - image.base).toNat = 16 * index := by
    rw [BitVec.toNat_sub_of_le (BitVec.le_def.mpr above)]
    omega
  rw [bundleAt, dif_neg inside]
  simp only [chunk, offset]

theorem bundleAt_of_address_ne
    (other : ∀ index : Fin image.bundleCount, image.address index ≠ bundleAddress address) :
    image.bundleAt address = .error (.outOfRange address image.base image.size) := by
  rw [bundleAt, dif_pos]
  by_contra inside
  obtain ⟨above, below⟩ := inside_iff.mp inside
  exact other ⟨_, below⟩ ((address_eq_iff (bundleAddress_aligned address) _).mpr ⟨above, rfl⟩)

/-- Looking up an address finds the bundle that is listed at its aligned address. -/
theorem bundleAt_eq_ok_iff {bytes : Vector UInt8 16} :
    image.bundleAt address = .ok bytes ↔ (bundleAddress address, bytes) ∈ image.bundles := by
  rw [mem_bundles_iff]
  constructor
  · intro found
    by_cases some : ∃ index : Fin image.bundleCount, image.address index = bundleAddress address
    · obtain ⟨index, same⟩ := some
      rw [bundleAt_of_address_eq same] at found
      exact ⟨index, by rw [same, Except.ok.inj found]⟩
    · rw [bundleAt_of_address_ne fun index same => some ⟨index, same⟩] at found
      exact absurd found nofun
  · rintro ⟨index, listed⟩
    obtain ⟨same, rfl⟩ := Prod.mk.inj listed
    exact bundleAt_of_address_eq same.symm

/-- The address lies in a complete bundle of the image. -/
def Contains (image : Image) (address : Word) : Prop :=
  image.base.toNat ≤ address.toNat ∧ address.toNat < image.base.toNat + image.size.toNat

instance : Decidable (image.Contains address) :=
  inferInstanceAs (Decidable (_ ∧ _))

theorem contains_iff_exists_index :
    image.Contains address ↔
      ∃ index : Fin image.bundleCount, image.address index = bundleAddress address := by
  have base := image.toNat_base_mod
  have aligned := toNat_bundleAddress address
  rw [Contains, toNat_size]
  constructor
  · rintro ⟨above, below⟩
    refine ⟨⟨((bundleAddress address).toNat - image.base.toNat) / 16, by omega⟩, ?_⟩
    exact (address_eq_iff (bundleAddress_aligned address) _).mpr ⟨by omega, rfl⟩
  · rintro ⟨index, same⟩
    have placed := image.toNat_address index.isLt
    rw [same] at placed
    omega

theorem bundleAt_of_not_listed
    (missing : ∀ bytes, (bundleAddress address, bytes) ∉ image.bundles) :
    image.bundleAt address = .error (.outOfRange address image.base image.size) := by
  apply bundleAt_of_address_ne
  intro index same
  exact missing _ (image.mem_bundles_iff.mpr ⟨index, by rw [same]⟩)

end Lookup

/-! ### Loading -/

section Loading

variable {base : Word} {bytes : Array UInt8} {image : Image}

theorem ofBytes_of_fits (aligned : base.toNat % 16 = 0) (small : bytes.size < 2 ^ 64)
    (within : base.toNat + 16 * (bytes.size / 16) ≤ 2 ^ 64) :
    ∃ image, ofBytes base bytes = .ok image ∧ image.base = base ∧ image.bytes = bytes := by
  have fits : runsPast base (completeSize bytes.size) = false := by
    rw [← Bool.not_eq_true, runsPast_iff base small]
    exact Nat.not_lt_of_le within
  rw [ofBytes, dif_pos ((aligned_iff base).mpr aligned), dif_pos ⟨small, fits⟩]
  exact ⟨_, rfl, rfl, rfl⟩

theorem bytes_of_ofBytes (placed : ofBytes base bytes = .ok image) : image.bytes = bytes := by
  rw [ofBytes] at placed
  split at placed
  · split at placed
    · cases placed
      rfl
    · cases placed
  · cases placed

/-- At the lowest base all bytes in memory fit. -/
theorem exists_ofBytes_zero (small : bytes.size < 2 ^ 64) :
    ∃ image, ofBytes 0 bytes = .ok image ∧ image.bytes = bytes := by
  have base : (0 : Word).toNat = 0 := rfl
  obtain ⟨image, placed, _, same⟩ := @ofBytes_of_fits 0 bytes rfl small (by omega)
  exact ⟨image, placed, same⟩

end Loading

/-! ### What an image is -/

/-- The bundles are the complete runs of sixteen bytes, each at its place in the address space, and
looking up an address finds the bundle that lies there. -/
structure IsExact (image : Image) : Prop where
  length_bundles : image.bundles.length = image.bytes.size / 16
  toNat_address : ∀ index (listed : index < image.bundles.length),
    image.bundles[index].1.toNat = image.base.toNat + 16 * index
  toArray_bytes : ∀ index (listed : index < image.bundles.length),
    16 * index + 16 ≤ image.bytes.size ∧
      image.bundles[index].2.toArray = image.bytes.extract (16 * index) (16 * index + 16)
  ascending : (image.bundles.map (·.1)).Pairwise (· < ·)
  aligned : ∀ bundle ∈ image.bundles, bundle.1.toNat % 16 = 0
  lastBundle : image.lastBundle? = (image.bundles.map (·.1)).getLast?
  size : image.size.toNat = 16 * image.bundles.length
  found : ∀ address bytes,
    image.bundleAt address = .ok bytes ↔ (address &&& ~~~0xF#64, bytes) ∈ image.bundles
  missing : ∀ address, (∀ bytes, (address &&& ~~~0xF#64, bytes) ∉ image.bundles) →
    image.bundleAt address = .error (.outOfRange address image.base image.size)

theorem isExact (image : Image) : image.IsExact where
  length_bundles := image.length_bundles
  toNat_address := fun _ => image.toNat_getElem_bundles
  toArray_bytes := by
    intro index listed
    rw [getElem_bundles]
    exact image.toArray_chunk ⟨index, image.length_bundles ▸ listed⟩
  ascending := by
    rw [map_fst_bundles, List.pairwise_map]
    apply List.pairwise_lt_range.imp_of_mem
    intro earlier later _ listed before
    have inside := List.mem_range.mp listed
    rw [BitVec.lt_def, image.toNat_address inside,
      image.toNat_address (Nat.lt_trans before inside)]
    omega
  aligned := by
    intro bundle listed
    obtain ⟨index, rfl⟩ := image.mem_bundles_iff.mp listed
    have base := image.toNat_base_mod
    rw [image.toNat_address index.isLt]
    omega
  lastBundle := by
    rw [map_fst_bundles, List.getLast?_map, List.getLast?_range, image.lastBundle?_eq]
    split <;> rfl
  size := by
    rw [image.length_bundles, image.toNat_size]
  found := fun _ _ => bundleAt_eq_ok_iff
  missing := fun _ => bundleAt_of_not_listed

/-- What becomes of bytes at an address: they are refused, or they are an image. -/
inductive Places (base : Word) (bytes : Array UInt8) : Except ImageError Image → Prop
  | misaligned (misaligned : base.toNat % 16 ≠ 0) : Places base bytes (.error (.misalignedBase base))
  | overflow (aligned : base.toNat % 16 = 0)
      (beyond : 2 ^ 64 < base.toNat + 16 * (bytes.size / 16)) :
      Places base bytes (.error (.overflow base bytes.size))
  | placed {image : Image} (aligned : base.toNat % 16 = 0)
      (within : base.toNat + 16 * (bytes.size / 16) ≤ 2 ^ 64) (sameBase : image.base = base)
      (sameBytes : image.bytes = bytes) (exact : image.IsExact) : Places base bytes (.ok image)

/-- Loading bytes whose length is a word computes the judgment. -/
theorem ofBytes_eq_iff (base : Word) (bytes : Array UInt8) (small : bytes.size < 2 ^ 64)
    (result : Except ImageError Image) :
    ofBytes base bytes = result ↔ Places base bytes result := by
  unfold ofBytes
  constructor
  · rintro rfl
    split
    next aligned =>
      split
      next fits =>
        exact .placed ((aligned_iff base).mp aligned) (end_le ⟨base, bytes, aligned, small, fits.2⟩)
          rfl rfl (isExact _)
      next refused =>
        have past : runsPast base (completeSize bytes.size) = true := by
          rw [← Bool.not_eq_false]
          exact fun fits => refused ⟨small, fits⟩
        exact .overflow ((aligned_iff base).mp aligned) ((runsPast_iff base small).mp past)
    next misaligned => exact .misaligned fun aligned => misaligned ((aligned_iff base).mpr aligned)
  · intro places
    cases places with
    | misaligned misaligned => rw [dif_neg fun aligned => misaligned ((aligned_iff base).mp aligned)]
    | overflow aligned beyond =>
      rw [dif_pos ((aligned_iff base).mpr aligned), dif_neg]
      rintro ⟨_, fits⟩
      rw [(runsPast_iff base small).mpr beyond] at fits
      cases fits
    -- The image itself proves the tests that it has passed.
    | @placed image _ _ sameBase sameBytes =>
      subst sameBase sameBytes
      rw [dif_pos image.aligned, dif_pos ⟨image.addressable, image.fits⟩]

/-- Twenty bytes at the last aligned address: one bundle, which ends with the last address of all. One
more bundle runs past it. -/
theorem ofBytes_eq_iff_top :
    (∃ image, Places 0xFFFFFFFFFFFFFFF0 (Array.replicate 20 0) (.ok image) ∧
      image.bundles.map (·.1) = [0xFFFFFFFFFFFFFFF0] ∧
      image.bundleAt 0xFFFFFFFFFFFFFFFF = .ok (Vector.replicate 16 0)) ∧
    Places 0xFFFFFFFFFFFFFFF0 (Array.replicate 32 0) (.error (.overflow 0xFFFFFFFFFFFFFFF0 32)) := by
  refine ⟨⟨_, (ofBytes_eq_iff _ _ (by decide) _).mp rfl, by decide, by decide⟩, ?_⟩
  exact (ofBytes_eq_iff _ _ (by decide) _).mp rfl

end Image

end Itanium
