/-!
# Instruction formats

A format says where the operands of an instruction lie. It is named for the unit that executes it
and numbered within the unit; the A formats run on both the M and the I unit.
-/
namespace Itanium

inductive Format where
  | a1 | a2 | a3 | a4 | a5 | a6 | a7 | a8 | a9 | a10 | b1 | b2 | b3 | b4 | b5 | b6 | b7 | b8 | b9
  | f1 | f2 | f3 | f4 | f5 | f6 | f7 | f8 | f9 | f10 | f11 | f12 | f13 | f14 | f15 | f16 | i1 | i2
  | i3 | i4 | i5 | i6 | i7 | i8 | i9 | i10 | i11 | i12 | i13 | i14 | i15 | i16 | i17 | i18 | i19
  | i20 | i21 | i22 | i23 | i24 | i25 | i26 | i27 | i28 | i29 | i30 | m1 | m2 | m3 | m4 | m5 | m6
  | m7 | m8 | m9 | m10 | m11 | m12 | m13 | m14 | m15 | m16 | m17 | m18 | m19 | m20 | m21 | m22 | m23
  | m24 | m25 | m26 | m27 | m28 | m29 | m30 | m31 | m32 | m33 | m34 | m35 | m36 | m37 | m38 | m39
  | m40 | m41 | m42 | m43 | m44 | m45 | m46 | m47 | m48 | x1 | x2 | x3 | x4 | x5
deriving DecidableEq

namespace Format

/-- Every format, in the order of the constructors. -/
def all : List Format := [
  .a1, .a2, .a3, .a4, .a5, .a6, .a7, .a8, .a9, .a10, .b1, .b2, .b3, .b4, .b5, .b6, .b7, .b8, .b9,
  .f1, .f2, .f3, .f4, .f5, .f6, .f7, .f8, .f9, .f10, .f11, .f12, .f13, .f14, .f15, .f16, .i1, .i2,
  .i3, .i4, .i5, .i6, .i7, .i8, .i9, .i10, .i11, .i12, .i13, .i14, .i15, .i16, .i17, .i18, .i19,
  .i20, .i21, .i22, .i23, .i24, .i25, .i26, .i27, .i28, .i29, .i30, .m1, .m2, .m3, .m4, .m5, .m6,
  .m7, .m8, .m9, .m10, .m11, .m12, .m13, .m14, .m15, .m16, .m17, .m18, .m19, .m20, .m21, .m22, .m23,
  .m24, .m25, .m26, .m27, .m28, .m29, .m30, .m31, .m32, .m33, .m34, .m35, .m36, .m37, .m38, .m39,
  .m40, .m41, .m42, .m43, .m44, .m45, .m46, .m47, .m48, .x1, .x2, .x3, .x4, .x5]

def name : Format → String
  | .a1 => "A1"
  | .a2 => "A2"
  | .a3 => "A3"
  | .a4 => "A4"
  | .a5 => "A5"
  | .a6 => "A6"
  | .a7 => "A7"
  | .a8 => "A8"
  | .a9 => "A9"
  | .a10 => "A10"
  | .b1 => "B1"
  | .b2 => "B2"
  | .b3 => "B3"
  | .b4 => "B4"
  | .b5 => "B5"
  | .b6 => "B6"
  | .b7 => "B7"
  | .b8 => "B8"
  | .b9 => "B9"
  | .f1 => "F1"
  | .f2 => "F2"
  | .f3 => "F3"
  | .f4 => "F4"
  | .f5 => "F5"
  | .f6 => "F6"
  | .f7 => "F7"
  | .f8 => "F8"
  | .f9 => "F9"
  | .f10 => "F10"
  | .f11 => "F11"
  | .f12 => "F12"
  | .f13 => "F13"
  | .f14 => "F14"
  | .f15 => "F15"
  | .f16 => "F16"
  | .i1 => "I1"
  | .i2 => "I2"
  | .i3 => "I3"
  | .i4 => "I4"
  | .i5 => "I5"
  | .i6 => "I6"
  | .i7 => "I7"
  | .i8 => "I8"
  | .i9 => "I9"
  | .i10 => "I10"
  | .i11 => "I11"
  | .i12 => "I12"
  | .i13 => "I13"
  | .i14 => "I14"
  | .i15 => "I15"
  | .i16 => "I16"
  | .i17 => "I17"
  | .i18 => "I18"
  | .i19 => "I19"
  | .i20 => "I20"
  | .i21 => "I21"
  | .i22 => "I22"
  | .i23 => "I23"
  | .i24 => "I24"
  | .i25 => "I25"
  | .i26 => "I26"
  | .i27 => "I27"
  | .i28 => "I28"
  | .i29 => "I29"
  | .i30 => "I30"
  | .m1 => "M1"
  | .m2 => "M2"
  | .m3 => "M3"
  | .m4 => "M4"
  | .m5 => "M5"
  | .m6 => "M6"
  | .m7 => "M7"
  | .m8 => "M8"
  | .m9 => "M9"
  | .m10 => "M10"
  | .m11 => "M11"
  | .m12 => "M12"
  | .m13 => "M13"
  | .m14 => "M14"
  | .m15 => "M15"
  | .m16 => "M16"
  | .m17 => "M17"
  | .m18 => "M18"
  | .m19 => "M19"
  | .m20 => "M20"
  | .m21 => "M21"
  | .m22 => "M22"
  | .m23 => "M23"
  | .m24 => "M24"
  | .m25 => "M25"
  | .m26 => "M26"
  | .m27 => "M27"
  | .m28 => "M28"
  | .m29 => "M29"
  | .m30 => "M30"
  | .m31 => "M31"
  | .m32 => "M32"
  | .m33 => "M33"
  | .m34 => "M34"
  | .m35 => "M35"
  | .m36 => "M36"
  | .m37 => "M37"
  | .m38 => "M38"
  | .m39 => "M39"
  | .m40 => "M40"
  | .m41 => "M41"
  | .m42 => "M42"
  | .m43 => "M43"
  | .m44 => "M44"
  | .m45 => "M45"
  | .m46 => "M46"
  | .m47 => "M47"
  | .m48 => "M48"
  | .x1 => "X1"
  | .x2 => "X2"
  | .x3 => "X3"
  | .x4 => "X4"
  | .x5 => "X5"

/-- The format of a name. -/
def ofName? (name : String) : Option Format :=
  all.find? (·.name == name)

/-- The letter of the unit the format belongs to. -/
def unitLetter : Format → Char
  | .a1 | .a2 | .a3 | .a4 | .a5 | .a6 | .a7 | .a8 | .a9 | .a10 => 'A'
  | .b1 | .b2 | .b3 | .b4 | .b5 | .b6 | .b7 | .b8 | .b9 => 'B'
  | .f1 | .f2 | .f3 | .f4 | .f5 | .f6 | .f7 | .f8 | .f9 | .f10 | .f11 | .f12 | .f13 | .f14 | .f15
  | .f16 => 'F'
  | .i1 | .i2 | .i3 | .i4 | .i5 | .i6 | .i7 | .i8 | .i9 | .i10 | .i11 | .i12 | .i13 | .i14 | .i15
  | .i16 | .i17 | .i18 | .i19 | .i20 | .i21 | .i22 | .i23 | .i24 | .i25 | .i26 | .i27 | .i28 | .i29
  | .i30 => 'I'
  | .m1 | .m2 | .m3 | .m4 | .m5 | .m6 | .m7 | .m8 | .m9 | .m10 | .m11 | .m12 | .m13 | .m14 | .m15
  | .m16 | .m17 | .m18 | .m19 | .m20 | .m21 | .m22 | .m23 | .m24 | .m25 | .m26 | .m27 | .m28 | .m29
  | .m30 | .m31 | .m32 | .m33 | .m34 | .m35 | .m36 | .m37 | .m38 | .m39 | .m40 | .m41 | .m42 | .m43
  | .m44 | .m45 | .m46 | .m47 | .m48 => 'M'
  | .x1 | .x2 | .x3 | .x4 | .x5 => 'X'

/-- The formats of a long immediate, whose upper part is the syllable before. -/
def isLong : Format → Bool
  | .x1 | .x2 | .x3 | .x4 | .x5 => true
  | _ => false

/-- All formats but the two branch predicts name a qualifying predicate. -/
def isPredicated : Format → Bool
  | .b6 | .b7 => false
  | _ => true

end Format

end Itanium
