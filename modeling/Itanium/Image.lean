import Itanium.Image.HexDump
import Itanium.Word

/-!
# Code images

Bytes that lie at a known address. The address is aligned to a bundle and every complete bundle ends
within the 64-bit address space; an image may end exactly at its top. Bytes after the last complete
bundle are kept but belong to no bundle. Addresses and sizes are words, and all arithmetic on them
is that of words.
-/
namespace Itanium

namespace Image

/-- The bytes in the complete bundles among so many bytes. -/
def completeSize (length : Nat) : Word :=
  BitVec.ofNat 64 (length - length % 16)

/-- Whether bytes from a base on go beyond the last address. -/
def runsPast (base size : Word) : Bool :=
  0 < size && (Word.checkedAdd base (size - 1)).isNone

end Image

/-- The length of the bytes is itself a word, as that of all bytes in memory is. -/
structure Image where
  base : Word
  bytes : Array UInt8
  aligned : base % 16 = 0
  addressable : bytes.size < Word.count
  fits : Image.runsPast base (Image.completeSize bytes.size) = false

inductive ImageError where
  | misalignedBase (base : Word)
  | overflow (base : Word) (length : Nat)
  | outOfRange (address base size : Word)
deriving DecidableEq

namespace ImageError

def addressText (address : Word) : String :=
  "0x" ++ Numeral.upperHex 16 address.toNat

def message : ImageError → String
  | misalignedBase base => "Base address " ++ addressText base ++ " is not 16-byte aligned"
  | overflow base length =>
    "Image of " ++ Numeral.decimal length ++ " bytes at " ++ addressText base ++
      " runs past the end of the address space"
  | outOfRange address base size =>
    "Address " ++ addressText address ++ " outside image of " ++ Numeral.decimal size.toNat ++
      " bytes at " ++ addressText base

end ImageError

namespace Image

/-- The alignment of the base is checked before the end of the image. -/
def ofBytes (base : Word) (bytes : Array UInt8) : Except ImageError Image :=
  if aligned : base % 16 = 0 then
    if fits : bytes.size < Word.count ∧ runsPast base (completeSize bytes.size) = false then
      .ok ⟨base, bytes, aligned, fits.1, fits.2⟩
    else .error (.overflow base bytes.size)
  else .error (.misalignedBase base)

/-- The number of complete bundles. -/
def bundleCount (image : Image) : Nat :=
  image.bytes.size / 16

/-- The number of bytes in complete bundles. -/
def size (image : Image) : Word :=
  BitVec.ofNat 64 (image.bundleCount * 16)

/-- The number of bytes after the last complete bundle. -/
def trailing (image : Image) : Nat :=
  image.bytes.size % 16

/-- The warning that some bytes belong to no bundle. -/
def warning? (image : Image) : Option String :=
  if image.trailing = 0 then none
  else some ("Image length " ++ Numeral.decimal image.bytes.size ++
    " is not a multiple of 16, ignoring " ++ Numeral.decimal image.trailing ++ " trailing bytes")

/-- Sixteen of the bytes, all of which the image has. -/
def slice (image : Image) (offset : Nat) (room : offset + 16 ≤ image.bytes.size) :
    Vector UInt8 16 :=
  ⟨image.bytes.extract offset (offset + 16), by rw [Array.size_extract]; omega⟩

/-- The address of the bundle of an index. -/
def address (image : Image) (index : Nat) : Word :=
  image.base + BitVec.ofNat 64 (index * 16)

/-- The sixteen bytes of the bundle of an index. -/
def chunk (image : Image) (index : Fin image.bundleCount) : Vector UInt8 16 :=
  image.slice (16 * index) (by have inside : index.val < image.bytes.size / 16 := index.isLt; omega)

/-- The bundles with their addresses, in ascending order. -/
def bundles (image : Image) : List (Word × Vector UInt8 16) :=
  (List.finRange image.bundleCount).map fun (index : Fin image.bundleCount) =>
    (image.address index, image.chunk index)

def lastBundle? (image : Image) : Option Word :=
  (Word.checkedSub image.size 16).map (image.base + ·)

/-- The address of the bundle that contains an address. Its four lowest bits tell the slots of the
bundle apart and are cleared. -/
def bundleAddress (address : Word) : Word :=
  address &&& ~~~15

theorem toNat_bundleAddress (address : Word) :
    (bundleAddress address).toNat = 16 * (address.toNat / 16) := by
  -- The bits that are kept and those that are cleared make up the address.
  have apart : (address &&& ~~~15) &&& (address &&& 15) = 0 := by
    ext bit
    simp only [BitVec.getElem_and, BitVec.getElem_not]
    cases address[bit] <;> cases (15 : Word)[bit] <;> simp
  have whole : (address &&& ~~~15) ||| (address &&& 15) = address := by
    ext bit
    simp only [BitVec.getElem_or, BitVec.getElem_and, BitVec.getElem_not]
    cases address[bit] <;> cases (15 : Word)[bit] <;> rfl
  have sum := BitVec.toNat_add_of_and_eq_zero apart
  rw [BitVec.add_eq_or_of_and_eq_zero _ _ apart, whole] at sum
  have low : (address &&& 15).toNat = address.toNat % 16 := by
    rw [BitVec.toNat_and]
    exact Nat.and_two_pow_sub_one_eq_mod address.toNat 4
  rw [bundleAddress]
  omega

/-- An address that is not below the base, and whose distance from it is below the size, has its
sixteen bytes in the image: base and address are both multiples of sixteen. -/
theorem room_of_inside {image : Image} {address : Word}
    (inside : ¬(bundleAddress address < image.base ∨
      image.size ≤ bundleAddress address - image.base)) :
    (bundleAddress address - image.base).toNat + 16 ≤ image.bytes.size := by
  have base : image.base.toNat % 16 = 0 := congrArg BitVec.toNat image.aligned
  have start := toNat_bundleAddress address
  rw [not_or, BitVec.not_lt, BitVec.not_le] at inside
  obtain ⟨above, below⟩ := inside
  rw [BitVec.lt_def, BitVec.toNat_sub_of_le above, size, bundleCount, BitVec.toNat_ofNat] at below
  rw [BitVec.toNat_sub_of_le above]
  rw [BitVec.le_def] at above
  omega

/-- The bundle that contains an address. -/
def bundleAt (image : Image) (address : Word) : Except ImageError (Vector UInt8 16) :=
  let start := bundleAddress address
  if inside : start < image.base ∨ image.size ≤ start - image.base then
    .error (.outOfRange address image.base image.size)
  else .ok (image.slice (start - image.base).toNat (room_of_inside inside))

end Image

end Itanium
