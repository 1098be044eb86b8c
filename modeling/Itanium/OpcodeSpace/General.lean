import Itanium.OpcodeSpace.Page

/-!
# Non-ALU integer opcodes

Major opcodes 0 to 7 of the I unit.
-/
namespace Itanium.OpcodeSpace

/-- Moves, extensions and `break`; the code is `x6`. -/
def integerMisc : List (Nat × Encoding) := [
  (0x00, ⟨.breakI, .i19⟩), (0x0A, ⟨.movI, .i27⟩), (0x10, ⟨.zxt1, .i29⟩), (0x11, ⟨.zxt2, .i29⟩),
  (0x12, ⟨.zxt4, .i29⟩), (0x14, ⟨.sxt1, .i29⟩), (0x15, ⟨.sxt2, .i29⟩), (0x16, ⟨.sxt4, .i29⟩),
  (0x18, ⟨.czx1L, .i29⟩), (0x19, ⟨.czx2L, .i29⟩), (0x1C, ⟨.czx1R, .i29⟩), (0x1D, ⟨.czx2R, .i29⟩),
  (0x2A, ⟨.movI, .i26⟩), (0x30, ⟨.movIp, .i25⟩), (0x31, ⟨.mov, .i22⟩), (0x32, ⟨.movI, .i28⟩),
  (0x33, ⟨.movPr, .i25⟩)]

/-- The code is `x3`. -/
def integerMoves : List (Nat × Encoding) := [
  (1, ⟨.chkSI, .i20⟩), (2, ⟨.mov, .i24⟩), (3, ⟨.mov, .i23⟩)]

/-- Extract, deposit and shift right pair; the code is `x` and `x2`. -/
def integerFields : List (Nat × Encoding) := [
  (2, ⟨.extr, .i11⟩), (6, ⟨.shrp, .i10⟩), (7, ⟨.dep, .i14⟩)]

/-- Multimedia and variable shifts; the code is bits 28 to 36. -/
def multimediaShifts : List (Nat × Encoding) := [
  (0x020, ⟨.pshr2U, .i5⟩), (0x022, ⟨.pshr2, .i5⟩), (0x024, ⟨.pshl2, .i7⟩), (0x061, ⟨.pshr2U, .i6⟩),
  (0x063, ⟨.pshr2, .i6⟩), (0x069, ⟨.popcnt, .i9⟩), (0x081, ⟨.pmin1U, .i2⟩),
  (0x084, ⟨.unpack1H, .i2⟩), (0x085, ⟨.pmax1U, .i2⟩), (0x086, ⟨.unpack1L, .i2⟩),
  (0x088, ⟨.mix1R, .i2⟩), (0x08A, ⟨.mix1L, .i2⟩), (0x08B, ⟨.psad1, .i2⟩), (0x0A0, ⟨.pack2Uss, .i2⟩),
  (0x0A2, ⟨.pack2Sss, .i2⟩), (0x0A3, ⟨.pmin2, .i2⟩), (0x0A4, ⟨.unpack2H, .i2⟩),
  (0x0A6, ⟨.unpack2L, .i2⟩), (0x0A7, ⟨.pmax2, .i2⟩), (0x0A8, ⟨.mix2R, .i2⟩), (0x0AA, ⟨.mix2L, .i2⟩),
  (0x0AD, ⟨.pmpy2R, .i2⟩), (0x0AF, ⟨.pmpy2L, .i2⟩), (0x0CA, ⟨.mux1, .i3⟩), (0x0E5, ⟨.pshl2, .i8⟩),
  (0x0EA, ⟨.mux2, .i4⟩), (0x100, ⟨.pshr4U, .i5⟩), (0x102, ⟨.pshr4, .i5⟩), (0x104, ⟨.pshl4, .i7⟩),
  (0x120, ⟨.shrU, .i5⟩), (0x122, ⟨.shr, .i5⟩), (0x124, ⟨.shl, .i7⟩), (0x141, ⟨.pshr4U, .i6⟩),
  (0x143, ⟨.pshr4, .i6⟩), (0x182, ⟨.pack4Sss, .i2⟩), (0x184, ⟨.unpack4H, .i2⟩),
  (0x186, ⟨.unpack4L, .i2⟩), (0x188, ⟨.mix4R, .i2⟩), (0x18A, ⟨.mix4L, .i2⟩), (0x1C5, ⟨.pshl4, .i8⟩)]

/-- Single-bit, NaT and feature tests of one pair of type bits. The code is the compare-type bit. -/
def bitTests (ta tb : Nat) (bit nat feature : List (Nat × Operation)) : List Page := [
  .within 5 [(⟨33, 3⟩, ta), (⟨36, 1⟩, tb), (⟨13, 1⟩, 0)] ⟨12, 1⟩ (assign .i16 bit),
  .within 5 [(⟨33, 3⟩, ta), (⟨36, 1⟩, tb), (⟨13, 1⟩, 1), (⟨19, 1⟩, 0)] ⟨12, 1⟩ (assign .i17 nat),
  .within 5 [(⟨33, 3⟩, ta), (⟨36, 1⟩, tb), (⟨13, 1⟩, 1), (⟨19, 1⟩, 1)] ⟨12, 1⟩
    (assign .i30 feature)]

def integerUnitPages : List Page := [
  .within 0 [(⟨33, 3⟩, 0)] ⟨27, 6⟩ integerMisc,
  .within 0 [(⟨33, 3⟩, 0), (⟨27, 6⟩, 1)] ⟨26, 1⟩ (assign .i18 [(0, .nopI), (1, .hintI)]),
  .within 0 [] ⟨33, 3⟩ integerMoves,
  .within 0 [(⟨33, 3⟩, 7)] ⟨22, 1⟩ (assign .i21 [(0, .mov), (1, .movRet)]),
  .single 4 [] .dep .i15,
  .within 5 [] ⟨33, 3⟩ integerFields,
  .within 5 [(⟨33, 3⟩, 3)] ⟨26, 1⟩ [(0, ⟨.depZ, .i12⟩), (1, ⟨.depZ, .i13⟩)],
  .within 7 [] ⟨28, 9⟩ multimediaShifts,
  .within 7 [(⟨32, 5⟩, 2)] ⟨28, 2⟩ (assign .i1 [(1, .pmpyshr2U), (3, .pmpyshr2)])] ++
  bitTests 0 0 [(0, .tbitZ), (1, .tbitZUnc)]
    [(0, .tnatZ), (1, .tnatZUnc)]
    [(0, .tfZ), (1, .tfZUnc)] ++
  bitTests 0 1 [(0, .tbitZAnd), (1, .tbitNzAnd)]
    [(0, .tnatZAnd), (1, .tnatNzAnd)]
    [(0, .tfZAnd), (1, .tfNzAnd)] ++
  bitTests 1 0 [(0, .tbitZOr), (1, .tbitNzOr)]
    [(0, .tnatZOr), (1, .tnatNzOr)]
    [(0, .tfZOr), (1, .tfNzOr)] ++
  bitTests 1 1 [(0, .tbitZOrAndcm), (1, .tbitNzOrAndcm)]
    [(0, .tnatZOrAndcm), (1, .tnatNzOrAndcm)]
    [(0, .tfZOrAndcm), (1, .tfNzOrAndcm)]

end Itanium.OpcodeSpace
