import Itanium.OpcodeSpace.Page

/-!
# Integer opcodes

Major opcodes 8 to 14, shared by the M and the I unit.
-/
namespace Itanium.OpcodeSpace

/-- Three registers; the code is `x4` and `x2b`. -/
def integerArithmetic : List (Nat × Operation) := [
  (0x00, .add), (0x01, .add), (0x04, .sub), (0x05, .sub), (0x08, .addp4), (0x0C, .and),
  (0x0D, .andcm), (0x0E, .or), (0x0F, .xor)]

/-- An 8-bit immediate and a register. -/
def immediateLogic : List (Nat × Operation) := [
  (0x25, .sub), (0x2C, .and), (0x2D, .andcm), (0x2E, .or), (0x2F, .xor)]

/-- Bits 27 and 28 hold the shift count. -/
def shiftAndAdd : List (Nat × Operation) := [
  (0x4, .shladd), (0x6, .shladdp4)]

/-- The code is `za`, `x2a`, `zb`, `x4` and `x2b`. -/
def multimedia : List (Nat × Operation) := [
  (0x080, .padd1), (0x081, .padd1Sss), (0x082, .padd1Uuu), (0x083, .padd1Uus), (0x084, .psub1),
  (0x085, .psub1Sss), (0x086, .psub1Uuu), (0x087, .psub1Uus), (0x08A, .pavg1), (0x08B, .pavg1Raz),
  (0x08E, .pavgsub1), (0x0A4, .pcmp1Eq), (0x0A5, .pcmp1Gt), (0x0C0, .padd2), (0x0C1, .padd2Sss),
  (0x0C2, .padd2Uuu), (0x0C3, .padd2Uus), (0x0C4, .psub2), (0x0C5, .psub2Sss), (0x0C6, .psub2Uuu),
  (0x0C7, .psub2Uus), (0x0CA, .pavg2), (0x0CB, .pavg2Raz), (0x0CE, .pavgsub2), (0x0E4, .pcmp2Eq),
  (0x0E5, .pcmp2Gt), (0x280, .padd4), (0x284, .psub4), (0x2A4, .pcmp4Eq), (0x2A5, .pcmp4Gt)]

/-- Bits 27 and 28 hold the shift count. -/
def multimediaShift : List (Nat × Operation) := [
  (0x34, .pshladd2), (0x36, .pshradd2)]

/-- A 14-bit immediate; the code is `x2a` and `ve`. -/
def addImmediate : List (Nat × Operation) := [
  (4, .adds), (6, .addp4)]

/-- The compares of one major opcode and compare-type bit. The code is the major opcode, `tb`, `x2`
and `ta`. -/
def comparePage (major compareType : Nat) (rows : List (Nat × Encoding)) : Page :=
  .within major [(⟨12, 1⟩, compareType)] ⟨33, 8⟩ rows

/-- Two registers, a register and `r0`, or an immediate and a register. The sign of the immediate
lies in the place of `tb`, so a compare with an immediate has two codes. -/
def comparePages : List Page := [
  comparePage 0xC 0 (
    assign .a6 [(0xC0, .cmpLt), (0xC1, .cmpEqAnd), (0xC2, .cmp4Lt), (0xC3, .cmp4EqAnd)] ++
    assign .a8 [(0xC4, .cmpLt), (0xCC, .cmpLt), (0xC5, .cmpEqAnd), (0xCD, .cmpEqAnd),
      (0xC6, .cmp4Lt), (0xCE, .cmp4Lt), (0xC7, .cmp4EqAnd), (0xCF, .cmp4EqAnd)] ++
    assign .a7 [(0xC8, .cmpGtAnd), (0xC9, .cmpGeAnd), (0xCA, .cmp4GtAnd), (0xCB, .cmp4GeAnd)]),
  comparePage 0xC 1 (
    assign .a6 [(0xC0, .cmpLtUnc), (0xC1, .cmpNeAnd), (0xC2, .cmp4LtUnc), (0xC3, .cmp4NeAnd)] ++
    assign .a8 [(0xC4, .cmpLtUnc), (0xCC, .cmpLtUnc), (0xC5, .cmpNeAnd), (0xCD, .cmpNeAnd),
      (0xC6, .cmp4LtUnc), (0xCE, .cmp4LtUnc), (0xC7, .cmp4NeAnd), (0xCF, .cmp4NeAnd)] ++
    assign .a7 [(0xC8, .cmpLeAnd), (0xC9, .cmpLtAnd), (0xCA, .cmp4LeAnd), (0xCB, .cmp4LtAnd)]),
  comparePage 0xD 0 (
    assign .a6 [(0xD0, .cmpLtu), (0xD1, .cmpEqOr), (0xD2, .cmp4Ltu), (0xD3, .cmp4EqOr)] ++
    assign .a8 [(0xD4, .cmpLtu), (0xDC, .cmpLtu), (0xD5, .cmpEqOr), (0xDD, .cmpEqOr),
      (0xD6, .cmp4Ltu), (0xDE, .cmp4Ltu), (0xD7, .cmp4EqOr), (0xDF, .cmp4EqOr)] ++
    assign .a7 [(0xD8, .cmpGtOr), (0xD9, .cmpGeOr), (0xDA, .cmp4GtOr), (0xDB, .cmp4GeOr)]),
  comparePage 0xD 1 (
    assign .a6 [(0xD0, .cmpLtuUnc), (0xD1, .cmpNeOr), (0xD2, .cmp4LtuUnc), (0xD3, .cmp4NeOr)] ++
    assign .a8 [(0xD4, .cmpLtuUnc), (0xDC, .cmpLtuUnc), (0xD5, .cmpNeOr), (0xDD, .cmpNeOr),
      (0xD6, .cmp4LtuUnc), (0xDE, .cmp4LtuUnc), (0xD7, .cmp4NeOr), (0xDF, .cmp4NeOr)] ++
    assign .a7 [(0xD8, .cmpLeOr), (0xD9, .cmpLtOr), (0xDA, .cmp4LeOr), (0xDB, .cmp4LtOr)]),
  comparePage 0xE 0 (
    assign .a6 [(0xE0, .cmpEq), (0xE1, .cmpEqOrAndcm), (0xE2, .cmp4Eq), (0xE3, .cmp4EqOrAndcm)] ++
    assign .a8 [(0xE4, .cmpEq), (0xEC, .cmpEq), (0xE5, .cmpEqOrAndcm), (0xED, .cmpEqOrAndcm),
      (0xE6, .cmp4Eq), (0xEE, .cmp4Eq), (0xE7, .cmp4EqOrAndcm), (0xEF, .cmp4EqOrAndcm)] ++
    assign .a7 [(0xE8, .cmpGtOrAndcm), (0xE9, .cmpGeOrAndcm), (0xEA, .cmp4GtOrAndcm),
      (0xEB, .cmp4GeOrAndcm)]),
  comparePage 0xE 1 (
    assign .a6 [(0xE0, .cmpEqUnc), (0xE1, .cmpNeOrAndcm), (0xE2, .cmp4EqUnc),
      (0xE3, .cmp4NeOrAndcm)] ++
    assign .a8 [(0xE4, .cmpEqUnc), (0xEC, .cmpEqUnc), (0xE5, .cmpNeOrAndcm), (0xED, .cmpNeOrAndcm),
      (0xE6, .cmp4EqUnc), (0xEE, .cmp4EqUnc), (0xE7, .cmp4NeOrAndcm), (0xEF, .cmp4NeOrAndcm)] ++
    assign .a7 [(0xE8, .cmpLeOrAndcm), (0xE9, .cmpLtOrAndcm), (0xEA, .cmp4LeOrAndcm),
      (0xEB, .cmp4LtOrAndcm)])]

def integerPages : List Page := [
  .within 8 [(⟨33, 3⟩, 0)] ⟨27, 6⟩ (assign .a1 integerArithmetic),
  .within 8 [(⟨33, 3⟩, 0)] ⟨27, 6⟩ (assign .a3 immediateLogic),
  .within 8 [(⟨33, 3⟩, 0)] ⟨29, 4⟩ (assign .a2 shiftAndAdd),
  .within 8 [] ⟨27, 10⟩ (assign .a9 multimedia),
  .within 8 [] ⟨29, 8⟩ (assign .a10 multimediaShift),
  .within 8 [] ⟨33, 3⟩ (assign .a4 addImmediate),
  .single 9 [] .addl .a5] ++ comparePages

end Itanium.OpcodeSpace
