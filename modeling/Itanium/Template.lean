import Itanium.ExecutionUnit

/-!
# Bundle templates

The template of a bundle assigns an execution unit to each of its three syllables and says after
which of them the instruction group stops. Of the 32 selectors 24 are assigned. The name of a
template spells this out, one letter for each unit, and units and stops are read off the name. A
constructor is spelled like the name, with `_` for a stop.
-/
namespace Itanium

inductive Template where
  | mii | mii_ | mi_i | mi_i_ | mlx | mlx_ | mmi | mmi_ | m_mi | m_mi_ | mfi | mfi_ | mmf | mmf_
  | mib | mib_ | mbb | mbb_ | bbb | bbb_ | mmb | mmb_ | mfb | mfb_
deriving DecidableEq

namespace Template

/-- Every template, in the order of the selectors. -/
def all : List Template := [
  .mii, .mii_, .mi_i, .mi_i_, .mlx, .mlx_, .mmi, .mmi_, .m_mi, .m_mi_, .mfi, .mfi_, .mmf, .mmf_,
  .mib, .mib_, .mbb, .mbb_, .bbb, .bbb_, .mmb, .mmb_, .mfb, .mfb_]

def selector : Template → Nat
  | .mii => 0x00
  | .mii_ => 0x01
  | .mi_i => 0x02
  | .mi_i_ => 0x03
  | .mlx => 0x04
  | .mlx_ => 0x05
  | .mmi => 0x08
  | .mmi_ => 0x09
  | .m_mi => 0x0A
  | .m_mi_ => 0x0B
  | .mfi => 0x0C
  | .mfi_ => 0x0D
  | .mmf => 0x0E
  | .mmf_ => 0x0F
  | .mib => 0x10
  | .mib_ => 0x11
  | .mbb => 0x12
  | .mbb_ => 0x13
  | .bbb => 0x16
  | .bbb_ => 0x17
  | .mmb => 0x18
  | .mmb_ => 0x19
  | .mfb => 0x1C
  | .mfb_ => 0x1D

/-- The template of a selector; a reserved selector has none. -/
def ofSelector? (selector : Nat) : Option Template :=
  all.find? (·.selector == selector)

/-- The letters of the units, each stop marked by a semicolon behind its unit. -/
def name : Template → String
  | .mii => "MII"
  | .mii_ => "MII;"
  | .mi_i => "MI;I"
  | .mi_i_ => "MI;I;"
  | .mlx => "MLX"
  | .mlx_ => "MLX;"
  | .mmi => "MMI"
  | .mmi_ => "MMI;"
  | .m_mi => "M;MI"
  | .m_mi_ => "M;MI;"
  | .mfi => "MFI"
  | .mfi_ => "MFI;"
  | .mmf => "MMF"
  | .mmf_ => "MMF;"
  | .mib => "MIB"
  | .mib_ => "MIB;"
  | .mbb => "MBB"
  | .mbb_ => "MBB;"
  | .bbb => "BBB"
  | .bbb_ => "BBB;"
  | .mmb => "MMB"
  | .mmb_ => "MMB;"
  | .mfb => "MFB"
  | .mfb_ => "MFB;"

/-- The letters of the units. -/
def letters (template : Template) : String :=
  String.ofList (template.name.toList.filter (· ≠ ';'))

/-- The units of the three slots. A slot that the name has no letter for is an M slot. -/
def units (template : Template) : Vector ExecutionUnit 3 :=
  let named := template.name.toList.filterMap ExecutionUnit.ofLetter?
  Vector.ofFn fun slot => named.getD slot .m

/-- Whether a semicolon stands right behind the letter of a slot. Semicolons take no slot. -/
def stopFollows : List Char → Nat → Bool
  | [], _ => false
  | letter :: rest, slot =>
    if letter = ';' then stopFollows rest slot
    else match slot with
      | 0 => rest.head? == some ';'
      | slot + 1 => stopFollows rest slot

/-- Whether the instruction group stops after a slot. -/
def stopsAfter (template : Template) (slot : Nat) : Bool :=
  stopFollows template.name.toList slot

end Template

end Itanium
