import Itanium.Format
import Itanium.Layout.Source

/-!
# Operands of each format

The sources of the operands after the qualifying predicate, destinations first. A few operations of
a format name one register more than the others, or imply an operand; the rest depends on the format
alone.
-/
namespace Itanium.Layout

open Source

/-! ### Split immediates and displacements -/

/-- Seven bits and a sign. -/
def immediate8 : List BitField := [⟨13, 7⟩, ⟨36, 1⟩]

def immediate9 : List BitField := [⟨13, 7⟩, ⟨27, 1⟩, ⟨36, 1⟩]

/-- The nine bits of a store, whose target field is free. -/
def storeImmediate9 : List BitField := [⟨6, 7⟩, ⟨27, 1⟩, ⟨36, 1⟩]

def immediate14 : List BitField := [⟨13, 7⟩, ⟨27, 6⟩, ⟨36, 1⟩]

def immediate21 : List BitField := [⟨6, 20⟩, ⟨36, 1⟩]

def immediate22 : List BitField := [⟨13, 7⟩, ⟨27, 9⟩, ⟨22, 5⟩, ⟨36, 1⟩]

def immediate24 : List BitField := [⟨6, 21⟩, ⟨31, 2⟩, ⟨36, 1⟩]

def branchTarget : List BitField := [⟨13, 20⟩, ⟨36, 1⟩]

/-- The target of a check whose operand is in the second register field. -/
def checkTarget : List BitField := [⟨6, 7⟩, ⟨20, 13⟩, ⟨36, 1⟩]

def floatCheckTarget : List BitField := [⟨6, 20⟩, ⟨36, 1⟩]

/-- The address of the branch that a branch predict is about. -/
def predictTag : List BitField := [⟨6, 7⟩, ⟨33, 2⟩]

def moveTag : List BitField := [⟨24, 9⟩]

/-- The upper part of a long immediate. -/
def longHalf : BitField := ⟨0, 41⟩

/-! ### Operands that depend on the operation -/

/-- The carry of the register forms of `add` and `sub`, selected by `x2b`. -/
def carry : Operation → List Source
  | .add => [whenCode ⟨27, 2⟩ 1 (immediate (.fixed 1))]
  | .sub => [whenCode ⟨27, 2⟩ 0 (immediate (.fixed 1))]
  | _ => []

/-- The second register of a 16-byte access. -/
def secondRegister (operation : Operation) (mnemonic : Mnemonic) : List Source :=
  if operation.mnemonic = mnemonic then [implied compareStoreData] else []

/-- The comparand of `cmpxchg`, whose codes have bits 33 to 35 clear, and the second data register
and comparand of `cmp8xchg16`. -/
def comparands (operation : Operation) : List Source :=
  if operation.mnemonic = .cmp8xchg16 then [implied compareStoreData, implied compareValue]
  else [whenCode ⟨33, 3⟩ 0 (implied compareValue)]

end Itanium.Layout

namespace Itanium

open Layout Source

/-- The operands of a format, in the order of their positions from 1. -/
def Format.sources (format : Format) (operation : Operation) : List Source :=
  match format with
  | .a1 => [general 6, general 13, general 20] ++ carry operation
  | .a2 | .a10 => [general 6, general 13, immediate (.above 1 ⟨27, 2⟩), general 20]
  | .a3 => [general 6, signed immediate8, general 20]
  | .a4 => [general 6, signed immediate14, general 20]
  | .a5 => [general 6, signed immediate22, register .greg 20 2]
  | .a6 | .a7 => [predicate 6, predicate 27, general 13, general 20]
  | .a8 => [predicate 6, predicate 27, signed immediate8, general 20]
  | .a9 => [general 6, general 13, general 20]
  | .b1 | .b2 => [displacement branchTarget]
  | .b3 => [branch 6, displacement branchTarget]
  | .b4 => [branch 13]
  | .b5 => [branch 6, branch 13]
  | .b6 => [displacement branchTarget, displacement predictTag]
  | .b7 => [branch 13, displacement predictTag]
  | .b8 => []
  | .b9 => [unsigned immediate21]
  | .f1 | .f2 | .f3 => [float 6, float 13, float 20, float 27]
  | .f4 => [predicate 6, predicate 27, float 13, float 20]
  | .f5 => [predicate 6, predicate 27, float 13, unsigned [⟨33, 2⟩, ⟨20, 7⟩]]
  | .f6 => [float 6, predicate 27, float 13, float 20]
  | .f7 => [float 6, predicate 27, float 20]
  | .f8 | .f9 => [float 6, float 13, float 20]
  | .f10 | .f11 => [float 6, float 13]
  | .f12 => [unsigned [⟨13, 7⟩], unsigned [⟨20, 7⟩]]
  | .f13 => []
  | .f14 => [displacement floatCheckTarget]
  | .f15 | .f16 => [unsigned [⟨6, 20⟩]]
  | .i1 => [general 6, general 13, general 20, immediate (.choice ⟨30, 2⟩ [0, 7, 15, 16])]
  | .i2 | .i7 => [general 6, general 13, general 20]
  | .i3 => [general 6, general 13, unsigned [⟨20, 4⟩]]
  | .i4 => [general 6, general 13, unsigned [⟨20, 8⟩]]
  | .i5 => [general 6, general 20, general 13]
  | .i6 => [general 6, general 20, unsigned [⟨14, 5⟩]]
  | .i8 => [general 6, general 13, immediate (.below 31 ⟨20, 5⟩)]
  | .i9 => [general 6, general 20]
  | .i10 => [general 6, general 13, general 20, unsigned [⟨27, 6⟩]]
  | .i11 => [general 6, general 20, unsigned [⟨14, 6⟩], immediate (.above 1 ⟨27, 6⟩)]
  | .i12 =>
    [general 6, general 13, immediate (.below 63 ⟨20, 6⟩), immediate (.above 1 ⟨27, 6⟩)]
  | .i13 =>
    [general 6, signed immediate8, immediate (.below 63 ⟨20, 6⟩), immediate (.above 1 ⟨27, 6⟩)]
  | .i14 =>
    [general 6, signed [⟨36, 1⟩], general 20, immediate (.below 63 ⟨14, 6⟩),
      immediate (.above 1 ⟨27, 6⟩)]
  | .i15 =>
    [general 6, general 13, general 20, immediate (.below 63 ⟨31, 6⟩),
      immediate (.above 1 ⟨27, 4⟩)]
  | .i16 => [predicate 6, predicate 27, general 20, unsigned [⟨14, 6⟩]]
  | .i17 => [predicate 6, predicate 27, general 20]
  | .i18 | .i19 => [unsigned immediate21]
  | .i20 => [general 13, displacement checkTarget]
  | .i21 => [branch 6, general 13, displacement moveTag]
  | .i22 => [general 6, branch 13]
  | .i23 =>
    [unique (.always .pr), general 13, immediate (.unsigned [⟨6, 7⟩, ⟨24, 8⟩, ⟨36, 1⟩] 1)]
  | .i24 => [unique (.always .prRot), signed [⟨6, 27⟩, ⟨36, 1⟩]]
  | .i25 => [general 6, unique .ofOperation]
  | .i26 => [application 20, general 13]
  | .i27 => [application 20, signed immediate8]
  | .i28 => [general 6, application 20]
  | .i29 => [general 6, general 20]
  | .i30 => [predicate 6, predicate 27, immediate (.above 32 ⟨14, 5⟩)]
  | .m1 => [general 6] ++ secondRegister operation .ld16 ++ [memory 20]
  | .m2 => [general 6, memory 20, general 13]
  | .m3 => [general 6, memory 20, signed immediate9]
  | .m4 => [memory 20, general 13] ++ secondRegister operation .st16
  | .m5 => [memory 20, general 13, signed storeImmediate9]
  | .m6 => [float 6, memory 20]
  | .m7 => [float 6, memory 20, general 13]
  | .m8 => [float 6, memory 20, signed immediate9]
  | .m9 => [memory 20, float 13]
  | .m10 => [memory 20, float 13, signed storeImmediate9]
  | .m11 => [float 6, float 13, memory 20]
  | .m12 => [float 6, float 13, memory 20, immediate (.choice ⟨30, 1⟩ [8, 16])]
  | .m13 => [memory 20]
  | .m14 => [memory 20, general 13]
  | .m15 => [memory 20, signed immediate9]
  | .m16 => [general 6, memory 20, general 13] ++ comparands operation
  | .m17 =>
    [general 6, memory 20, immediate (.choice ⟨13, 3⟩ [16, 8, 4, 1, -16, -8, -4, -1])]
  | .m18 => [float 6, general 13]
  | .m19 => [general 6, float 13]
  | .m20 => [general 13, displacement checkTarget]
  | .m21 => [float 13, displacement checkTarget]
  | .m22 => [general 6, displacement branchTarget]
  | .m23 => [float 6, displacement branchTarget]
  | .m24 | .m25 => []
  | .m26 => [general 6]
  | .m27 => [float 6]
  | .m28 | .m47 => [general 20]
  | .m29 => [application 20, general 13]
  | .m30 => [application 20, signed immediate8]
  | .m31 => [general 6, application 20]
  | .m32 => [control 20, general 13]
  | .m33 => [general 6, control 20]
  | .m34 =>
    [general 6, implied previousFunctionState, immediate (.fixed 0), unsigned [⟨20, 7⟩],
      immediate (.difference ⟨13, 7⟩ ⟨20, 7⟩), immediate (.unsigned [⟨27, 4⟩] 3)]
  | .m35 => [unique (.byCode ⟨27, 6⟩ 0x2D .psrL .psrUm), general 13]
  | .m36 => [general 6, unique (.byCode ⟨27, 6⟩ 0x25 .psr .psrUm)]
  | .m37 | .m48 => [unsigned immediate21]
  | .m38 => [general 6, general 20, general 13]
  | .m39 => [general 6, general 20, unsigned [⟨13, 2⟩]]
  | .m40 => [general 20, unsigned [⟨13, 2⟩]]
  | .m41 => [general 13]
  | .m42 => [⟨.ofOperation, .unsigned [⟨20, 7⟩] 0, none⟩, general 13]
  | .m43 => [general 6, ⟨.ofOperation, .unsigned [⟨20, 7⟩] 0, none⟩]
  | .m44 => [unsigned immediate24]
  | .m45 => [general 20, general 13]
  | .m46 => [general 6, general 20]
  | .x1 | .x5 => [immediate (.spliced immediate21 longHalf [] 0)]
  | .x2 =>
    [general 6,
      immediate (.spliced [⟨13, 7⟩, ⟨27, 9⟩, ⟨22, 5⟩, ⟨21, 1⟩] longHalf [⟨36, 1⟩] 0)]
  | .x3 => [⟨.always .disp, .spliced [⟨13, 20⟩] ⟨2, 39⟩ [⟨36, 1⟩] 4, none⟩]
  | .x4 => [branch 6, ⟨.always .disp, .spliced [⟨13, 20⟩] ⟨2, 39⟩ [⟨36, 1⟩] 4, none⟩]

/-- The position of the first source operand. A format that writes two registers has its sources
from 3, one that writes none from 1; `ld16` writes two. -/
def Format.sourceIndex (format : Format) (mnemonic : Mnemonic) : Nat :=
  match format with
  | .a6 | .a7 | .a8 | .f4 | .f5 | .f6 | .f7 | .i16 | .i17 | .i30 | .m11 | .m12 => 3
  | .m1 => if mnemonic = .ld16 then 3 else 2
  | .b6 | .b7 | .f12 | .i20 | .m14 | .m15 | .m20 | .m21 | .m22 | .m23 | .m40 | .m45 => 1
  | _ => 2

end Itanium
