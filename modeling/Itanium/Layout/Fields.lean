import Itanium.Completer
import Itanium.Format
import Itanium.Word

/-!
# Completer fields and reserved fields

The completers that a format takes from fields of the syllable, in the order in which they are
written, and the fields that must hold one of a few codes for the syllable to be accepted.
-/
namespace Itanium.Layout

/-- A completer whose form is chosen by the gathered fields. -/
structure Hint where
  role : CompleterRole
  fields : List BitField
  forms : List CompleterForm

def Hint.completer (hint : Hint) (syllable : Word) : Completer :=
  ⟨hint.role, hint.forms.getD (BitField.gather syllable hint.fields) .none⟩

/-- How soon the accessed line is needed again. -/
def locality (role : CompleterRole) : Hint := ⟨role, [⟨28, 2⟩], [.none, .nt1, .nt2, .nta]⟩

/-- The floating-point status field. -/
def statusField : Hint := ⟨.sf, [⟨34, 2⟩], [.s0, .s1, .s2, .s3]⟩

/-- Whether the branch is taken, how much to prefetch, and whether to drop its prediction. -/
def branchHints : List Hint := [
  ⟨.bwh, [⟨33, 2⟩], [.sptk, .spnt, .dptk, .dpnt]⟩,
  ⟨.ph, [⟨12, 1⟩], [.few, .many]⟩,
  ⟨.dh, [⟨35, 1⟩], [.none, .clr]⟩]

def predictHints : List Hint := [
  ⟨.ipwh, [⟨3, 2⟩], [.sptk, .loop, .dptk, .exit]⟩,
  ⟨.ph, [⟨5, 1⟩], [.few, .many]⟩,
  ⟨.pvec, [⟨0, 3⟩], [.dcDc, .dcNt, .tkDc, .tkTk, .tkNt, .ntDc, .ntTk, .ntNt]⟩,
  ⟨.ih, [⟨35, 1⟩], [.none, .imp]⟩]

/-- The relation of a floating-point compare, spread over two bits, and its type. -/
def floatCompareHints : List Hint := [
  ⟨.frel, [⟨33, 1⟩, ⟨36, 1⟩], [.eq, .le, .lt, .unord]⟩,
  ⟨.fctype, [⟨12, 1⟩], [.none, .unc]⟩,
  statusField]

def moveHints : List Hint := [
  ⟨.mwh, [⟨20, 2⟩], [.sptk, .none, .dptk]⟩,
  ⟨.ih, [⟨23, 1⟩], [.none, .imp]⟩]

/-- A field with the codes that are not reserved. -/
structure Reserved where
  field : BitField
  codes : List Nat

def Reserved.admits (reserved : Reserved) (syllable : Word) : Bool :=
  reserved.codes.contains (reserved.field.read syllable)

end Itanium.Layout

namespace Itanium.Format

open Layout

def hints : Format → List Hint
  | .b1 | .b2 | .b3 | .b4 | .b5 | .x3 | .x4 => branchHints
  | .b6 | .b7 => predictHints
  | .f1 | .f6 | .f7 | .f8 | .f10 | .f12 | .f13 | .f14 => [statusField]
  | .f4 => floatCompareHints
  | .i21 => moveHints
  | .m1 | .m2 | .m3 | .m6 | .m7 | .m8 | .m11 | .m12 | .m16 | .m17 => [locality .ldhint]
  | .m4 | .m5 | .m9 | .m10 => [locality .sthint]
  | .m13 | .m14 | .m15 => [locality .lfhint]
  | _ => []

def reserved : Format → List Reserved
  | .a7 | .i9 => [⟨⟨13, 7⟩, [0]⟩]
  | .b2 | .m25 => [⟨⟨0, 6⟩, [0]⟩]
  | .i21 => [⟨⟨20, 2⟩, [0, 1, 2]⟩]
  | _ => []

end Itanium.Format
