import Itanium.Extraction
import Itanium.OpcodeSpace
import Itanium.Template
import Itanium.Text.Numeral

/-!
# Bundles

A bundle is 128 bits: a five-bit template selector and three 41-bit syllables. Decoding walks over
the letters of the template's name and reads the syllable of each unit in turn. A bundle decodes as
a whole or not at all: the first letter that fails ends the walk.
-/
namespace Itanium

namespace RawBundle

/-- The low five bits. -/
def selector (raw : BitVec 128) : Nat :=
  raw.toNat % 32

/-- Syllables lie one above the other, slot 0 lowest. -/
def syllable (raw : BitVec 128) (slot : Nat) : Word :=
  BitVec.ofNat 64 (raw.toNat >>> (5 + 41 * slot) % (1 <<< 41))

/-- The value of bytes in memory order, the first byte lowest. -/
def ofBytes (bytes : Vector UInt8 16) : BitVec 128 :=
  BitVec.ofNat 128 (bytes.toList.foldr (fun byte rest => byte.toNat + 256 * rest) 0)

/-- The bytes of a value in memory order. -/
def toBytes (raw : BitVec 128) : Vector UInt8 16 :=
  Vector.ofFn fun position => UInt8.ofNat (raw.toNat >>> (8 * position.val))

end RawBundle

inductive Rejection where
  | reservedTemplate (selector : Nat)
  | badLetter (letter : Char)
  | misplacedLong (slot : Nat)
  | noMatch (slot : Nat) (unit : ExecutionUnit) (bits : Word)
  | unreadable (slot : Nat) (format : Format) (error : ExtractionError)
deriving DecidableEq

namespace Rejection

def message : Rejection → String
  | reservedTemplate selector => "reserved template selector 0x" ++ Numeral.upperHex 2 selector
  | badLetter letter => "unexpected template letter '" ++ letter.toString ++ "'"
  | misplacedLong slot => "L unit in slot " ++ Numeral.decimal slot
  | noMatch slot unit bits =>
    "no " ++ unit.letter.toString ++ "-unit opcode matches slot " ++ Numeral.decimal slot ++
      " (0x" ++ Numeral.upperHex 11 bits.toNat ++ ")"
  | unreadable slot format (.completerOverflow _) =>
    "too many completers in " ++ format.name ++ " syllable at slot " ++ Numeral.decimal slot
  | unreadable slot format _ =>
    "reserved field set in " ++ format.name ++ " syllable at slot " ++ Numeral.decimal slot

/-- The message together with the bundle that was rejected. -/
def report (rejection : Rejection) (raw : BitVec 128) : String :=
  "invalid bundle " ++ Numeral.upperHex 32 raw.toNat ++ ": " ++ rejection.message

end Rejection

/-- Where the walk over the letters of a template stands: the slot that the next unit takes, and
what the slots hold so far. -/
structure Walk where
  slot : Nat
  slots : Vector Slot 3

namespace Walk

def start : Walk :=
  ⟨0, Vector.replicate 3 (.longHalf 0)⟩

/-- An X syllable is completed by the one before it, which is recorded as its long half. The other
units have no second syllable. -/
def pair (raw : BitVec 128) (unit : ExecutionUnit) (walk : Walk) :
    Except Rejection (Vector Slot 3 × Option Word) :=
  if unit = .x then
    match walk.slot with
    | 0 => .error (.misplacedLong 0)
    | before + 1 =>
      let bits := RawBundle.syllable raw before
      .ok (walk.slots.setIfInBounds before (.longHalf bits), some bits)
  else .ok (walk.slots, none)

/-- Reads the syllable of a unit that executes something and takes its slot. -/
def read (raw : BitVec 128) (unit : ExecutionUnit) (walk : Walk) : Except Rejection Walk := do
  let bits := RawBundle.syllable raw walk.slot
  let (slots, long) ← pair raw unit walk
  match OpcodeSpace.lookup? unit bits with
  | none => .error (.noMatch walk.slot unit bits)
  | some encoding =>
    match extract encoding.operation encoding.format bits long with
    | .error error => .error (.unreadable walk.slot encoding.format error)
    | .ok instruction =>
      .ok ⟨walk.slot + 1, slots.setIfInBounds walk.slot (.decoded instruction)⟩

/-- One letter. A semicolon takes no slot; an L takes slot 1 and leaves it to the X behind it. -/
def step (raw : BitVec 128) (walk : Walk) (letter : Char) : Except Rejection Walk :=
  if letter = ';' then .ok walk
  else match ExecutionUnit.ofLetter? letter with
    | none => .error (.badLetter letter)
    | some unit =>
      if unit = .l then
        if walk.slot ≠ 1 then .error (.misplacedLong walk.slot)
        else .ok { walk with slot := walk.slot + 1 }
      else read raw unit walk

end Walk

structure Bundle where
  template : Template
  slots : Vector Slot 3
deriving DecidableEq

namespace Bundle

def decode (raw : BitVec 128) : Except Rejection Bundle :=
  match Template.ofSelector? (RawBundle.selector raw) with
  | none => .error (.reservedTemplate (RawBundle.selector raw))
  | some template => do
    let walk ← template.name.toList.foldlM (Walk.step raw) Walk.start
    return ⟨template, walk.slots⟩

def ofBytes (bytes : Vector UInt8 16) : Except Rejection Bundle :=
  decode (RawBundle.ofBytes bytes)

/-- The instructions with their slot numbers; long halves are left out. -/
def instructions (bundle : Bundle) : List (Nat × Instruction) :=
  bundle.slots.toList.zipIdx.filterMap fun (slot, index) =>
    slot.instruction?.map ((index, ·))

end Bundle

end Itanium
