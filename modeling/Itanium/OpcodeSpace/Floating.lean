import Itanium.OpcodeSpace.Page

/-!
# Floating-point opcodes

Major opcodes of the F unit.
-/
namespace Itanium.OpcodeSpace

/-- The code is `x6`. -/
def floatMisc : List (Nat × Encoding) := [
  (0x00, ⟨.breakF, .f15⟩), (0x04, ⟨.fsetc, .f12⟩), (0x05, ⟨.fclrf, .f13⟩), (0x08, ⟨.fchkf, .f14⟩),
  (0x10, ⟨.fmergeS, .f9⟩), (0x11, ⟨.fmergeNs, .f9⟩), (0x12, ⟨.fmergeSe, .f9⟩), (0x14, ⟨.fmin, .f8⟩),
  (0x15, ⟨.fmax, .f8⟩), (0x16, ⟨.famin, .f8⟩), (0x17, ⟨.famax, .f8⟩), (0x18, ⟨.fcvtFx, .f10⟩),
  (0x19, ⟨.fcvtFxu, .f10⟩), (0x1A, ⟨.fcvtFxTrunc, .f10⟩), (0x1B, ⟨.fcvtFxuTrunc, .f10⟩),
  (0x1C, ⟨.fcvtXf, .f11⟩), (0x28, ⟨.fpack, .f9⟩), (0x2C, ⟨.fand, .f9⟩), (0x2D, ⟨.fandcm, .f9⟩),
  (0x2E, ⟨.fOr, .f9⟩), (0x2F, ⟨.fxor, .f9⟩), (0x34, ⟨.fswap, .f9⟩), (0x35, ⟨.fswapNl, .f9⟩),
  (0x36, ⟨.fswapNr, .f9⟩), (0x39, ⟨.fmixLr, .f9⟩), (0x3A, ⟨.fmixR, .f9⟩), (0x3B, ⟨.fmixL, .f9⟩),
  (0x3C, ⟨.fsxtR, .f9⟩), (0x3D, ⟨.fsxtL, .f9⟩)]

/-- The code is `x6`. -/
def parallelFloatMisc : List (Nat × Encoding) := [
  (0x10, ⟨.fpmergeS, .f9⟩), (0x11, ⟨.fpmergeNs, .f9⟩), (0x12, ⟨.fpmergeSe, .f9⟩),
  (0x14, ⟨.fpmin, .f8⟩), (0x15, ⟨.fpmax, .f8⟩), (0x16, ⟨.fpamin, .f8⟩), (0x17, ⟨.fpamax, .f8⟩),
  (0x18, ⟨.fpcvtFx, .f10⟩), (0x19, ⟨.fpcvtFxu, .f10⟩), (0x1A, ⟨.fpcvtFxTrunc, .f10⟩),
  (0x1B, ⟨.fpcvtFxuTrunc, .f10⟩), (0x30, ⟨.fpcmpEq, .f8⟩), (0x31, ⟨.fpcmpLt, .f8⟩),
  (0x32, ⟨.fpcmpLe, .f8⟩), (0x33, ⟨.fpcmpUnord, .f8⟩), (0x34, ⟨.fpcmpNeq, .f8⟩),
  (0x35, ⟨.fpcmpNlt, .f8⟩), (0x36, ⟨.fpcmpNle, .f8⟩), (0x37, ⟨.fpcmpOrd, .f8⟩)]

/-- Fused multiply-add in two precisions, told apart by bit 36. -/
def multiplyAdds (major : Nat) (first second : Operation) : Page :=
  .within major [] ⟨36, 1⟩ (assign .f1 [(0, first), (1, second)])

def floatPages : List Page := [
  .within 0 [(⟨33, 1⟩, 0)] ⟨27, 6⟩ floatMisc,
  .within 0 [(⟨33, 1⟩, 0), (⟨27, 6⟩, 1)] ⟨26, 1⟩ (assign .f16 [(0, .nopF), (1, .hintF)]),
  .within 0 [(⟨33, 1⟩, 1)] ⟨36, 1⟩ [(0, ⟨.frcpa, .f6⟩), (1, ⟨.frsqrta, .f7⟩)],
  .within 1 [(⟨33, 1⟩, 0)] ⟨27, 6⟩ parallelFloatMisc,
  .within 1 [(⟨33, 1⟩, 1)] ⟨36, 1⟩ [(0, ⟨.fprcpa, .f6⟩), (1, ⟨.fprsqrta, .f7⟩)],
  .single 4 [] .fcmp .f4,
  .single 5 [] .fclassM .f5,
  multiplyAdds 0x8 .fma .fmaS,
  multiplyAdds 0x9 .fmaD .fpma,
  multiplyAdds 0xA .fms .fmsS,
  multiplyAdds 0xB .fmsD .fpms,
  multiplyAdds 0xC .fnma .fnmaS,
  multiplyAdds 0xD .fnmaD .fpnma,
  .within 0xE [(⟨36, 1⟩, 1)] ⟨34, 2⟩ (assign .f2 [(0, .xmaL), (2, .xmaHu), (3, .xmaH)]),
  .single 0xE [(⟨36, 1⟩, 0)] .fselect .f3]

end Itanium.OpcodeSpace
