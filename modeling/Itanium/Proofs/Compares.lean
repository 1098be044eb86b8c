import Itanium.Operation.Assembly
import Itanium.Proofs.FixedFields

/-!
# Compares and tests

The compares fill three major opcodes of the M and the I unit; the single-bit, NaT and feature tests
fill a part of one of the I unit. Either family is composed from a few codes: some choose the
mnemonic and the format, the others the relation and the way in which the result is combined with
the target predicates. No combination of codes is left out, and the rows of the opcode tables are
this rule written out.
-/
namespace Itanium

open OpcodeSpace

/-! ### The rule of the compares -/

/-- The codes that tell the compares apart. -/
structure CompareCodes where
  major : Nat
  x2 : Nat
  tb : Nat
  ta : Nat
  /-- The compare-type bit. -/
  c : Nat

namespace CompareCodes

def ofSyllable (syllable : Word) : CompareCodes where
  major := Word.majorOpcode.read syllable
  x2 := (⟨34, 2⟩ : BitField).read syllable
  tb := (⟨36, 1⟩ : BitField).read syllable
  ta := (⟨33, 1⟩ : BitField).read syllable
  c := (⟨12, 1⟩ : BitField).read syllable

def majors : List Nat := [0xC, 0xD, 0xE]

variable (codes : CompareCodes)

/-- A compare has an immediate, two registers, or a register that is compared with zero. -/
def format : Format :=
  if 2 ≤ codes.x2 then .a8 else if codes.tb = 0 then .a6 else .a7

def mnemonic : Mnemonic :=
  if codes.x2 % 2 = 1 then .cmp4 else .cmp

/-- The relation of a register to zero. -/
def zeroRelation : CompleterForm :=
  match codes.ta, codes.c with
  | 0, 0 => .gt
  | 0, _ => .le
  | _, 0 => .ge
  | _, _ => .lt

/-- The relation of two values that the major opcode stands for. -/
def majorRelation : CompleterForm :=
  match codes.major with
  | 0xC => .lt
  | 0xD => .ltu
  | _ => .eq

/-- The combination with the target predicates that the major opcode stands for. -/
def parallelType : CompleterForm :=
  match codes.major with
  | 0xC => .and
  | 0xD => .or
  | _ => .orAndcm

def relation : CompleterForm :=
  if codes.format = .a7 then codes.zeroRelation
  else if codes.ta = 1 then if codes.c = 0 then .eq else .ne
  else codes.majorRelation

def type : CompleterForm :=
  if codes.format = .a7 ∨ codes.ta = 1 then codes.parallelType
  else if codes.c = 0 then .none else .unc

def assembly : Assembly :=
  ⟨codes.mnemonic, [⟨.crel, codes.relation⟩, ⟨.ctype, codes.type⟩], .none⟩

def conditions : List (BitField × Nat) :=
  [(Word.majorOpcode, codes.major), (⟨34, 2⟩, codes.x2), (⟨36, 1⟩, codes.tb), (⟨33, 1⟩, codes.ta),
    (⟨12, 1⟩, codes.c)]

end CompareCodes

/-! ### The rule of the tests -/

/-- The codes that tell the tests of major opcode 5 apart. -/
structure TestCodes where
  /-- Set for the tests other than the single-bit test. -/
  y : Nat
  /-- Set for the feature test among these. -/
  x : Nat
  tb : Nat
  ta : Nat
  /-- The compare-type bit. -/
  c : Nat

namespace TestCodes

def ofSyllable (syllable : Word) : TestCodes where
  y := (⟨13, 1⟩ : BitField).read syllable
  x := (⟨19, 1⟩ : BitField).read syllable
  tb := (⟨36, 1⟩ : BitField).read syllable
  ta := (⟨33, 1⟩ : BitField).read syllable
  c := (⟨12, 1⟩ : BitField).read syllable

variable (codes : TestCodes)

def format : Format :=
  if codes.y = 0 then .i16 else if codes.x = 0 then .i17 else .i30

def mnemonic : Mnemonic :=
  if codes.y = 0 then .tbit else if codes.x = 0 then .tnat else .tf

/-- A test that does not combine its result has no inverse. -/
def relation : CompleterForm :=
  if codes.tb = 0 ∧ codes.ta = 0 then .z else if codes.c = 0 then .z else .nz

def type : CompleterForm :=
  match codes.tb, codes.ta with
  | 0, 0 => if codes.c = 0 then .none else .unc
  | _, 0 => .and
  | 0, _ => .or
  | _, _ => .orAndcm

def assembly : Assembly :=
  ⟨codes.mnemonic, [⟨.trel, codes.relation⟩, ⟨.ctype, codes.type⟩], .none⟩

def conditions : List (BitField × Nat) :=
  [(Word.majorOpcode, 5), (⟨34, 2⟩, 0), (⟨13, 1⟩, codes.y), (⟨19, 1⟩, codes.x), (⟨36, 1⟩, codes.tb),
    (⟨33, 1⟩, codes.ta), (⟨12, 1⟩, codes.c)]

end TestCodes

/-! ### The integer opcodes are shared -/

namespace OpcodeSpace

theorem findSome?_eq_none_of_low (own : List Page)
    (low : ∀ page ∈ own, ∃ guard ∈ page.guards, guard.1 = Word.majorOpcode ∧ guard.2 < 8)
    {syllable : Word} (high : 8 ≤ Word.majorOpcode.read syllable) :
    own.findSome? (·.lookup? syllable) = none := by
  rw [List.findSome?_eq_none_iff]
  intro page member
  obtain ⟨⟨field, code⟩, listed, rfl, small⟩ := low page member
  rw [Page.lookup?, if_neg]
  rw [Page.admits_iff]
  intro met
  have read : Word.majorOpcode.read syllable = code := met _ listed
  omega

/-- The M and the I unit have the major opcodes from 8 in common. -/
theorem lookup?_m_eq_i {syllable : Word} (high : 8 ≤ Word.majorOpcode.read syllable) :
    lookup? .m syllable = lookup? .i syllable := by
  have memory := findSome?_eq_none_of_low memoryPages (by decide) high
  have integer := findSome?_eq_none_of_low integerUnitPages (by decide) high
  rw [lookup?, lookup?, pages, pages, List.findSome?_append, List.findSome?_append, memory, integer]

end OpcodeSpace

/-! ### The opcode tables -/

/-- What an encoding says: the format, and the assembly of the operation. -/
def Encoding.summary (encoding : Encoding) : Format × Assembly :=
  (encoding.format, encoding.operation.assembly)

theorem Encoding.exists_of_summary {found : Option Encoding} {format : Format} {assembly : Assembly}
    (summary : found.map Encoding.summary = some (format, assembly)) :
    ∃ encoding, found = some encoding ∧ encoding.format = format ∧
      encoding.operation.assembly = assembly := by
  obtain ⟨encoding, rfl, same⟩ := Option.map_eq_some_iff.mp summary
  exact ⟨encoding, rfl, congrArg Prod.fst same, congrArg Prod.snd same⟩

/-- The conditions decide what the unit finds, and it finds this format and this assembly. -/
def OpcodeSpace.selects (unit : ExecutionUnit) (conditions : List (BitField × Nat))
    (format : Format) (assembly : Assembly) : Bool :=
  (pages unit).all (Page.isSettled conditions) &&
    (lookup? unit (pattern conditions)).map Encoding.summary == some (format, assembly)

theorem OpcodeSpace.exists_of_selects {unit : ExecutionUnit} {conditions : List (BitField × Nat)}
    {format : Format} {assembly : Assembly}
    (selected : selects unit conditions format assembly = true) {syllable : Word}
    (met : Meets conditions syllable) :
    ∃ encoding, lookup? unit syllable = some encoding ∧ encoding.format = format ∧
      encoding.operation.assembly = assembly := by
  rw [selects, Bool.and_eq_true, beq_iff_eq] at selected
  obtain ⟨settled, summary⟩ := selected
  rw [lookup?_eq_pattern settled met]
  exact Encoding.exists_of_summary summary

theorem CompareCodes.selects : ∀ major ∈ majors, ∀ x2 < 4, ∀ tb < 2, ∀ ta < 2, ∀ c < 2,
    OpcodeSpace.selects .i (conditions ⟨major, x2, tb, ta, c⟩) (format ⟨major, x2, tb, ta, c⟩)
      (assembly ⟨major, x2, tb, ta, c⟩) = true := by
  decide +kernel

theorem TestCodes.selects : ∀ y < 2, ∀ x < 2, ∀ tb < 2, ∀ ta < 2, ∀ c < 2,
    OpcodeSpace.selects .i (conditions ⟨y, x, tb, ta, c⟩) (format ⟨y, x, tb, ta, c⟩)
      (assembly ⟨y, x, tb, ta, c⟩) = true := by
  decide +kernel

/-- Every compare is found, by the M unit as by the I unit, and so is every test, with the format,
the mnemonic, the relation and the type that its codes stand for. -/
theorem compares_and_tests_follow_rules :
    (∀ syllable : Word, Word.majorOpcode.read syllable ∈ [0xC, 0xD, 0xE] →
      ∃ encoding, lookup? .m syllable = some encoding ∧ lookup? .i syllable = some encoding ∧
        encoding.format = (CompareCodes.ofSyllable syllable).format ∧
        encoding.operation.assembly = (CompareCodes.ofSyllable syllable).assembly) ∧
    ∀ syllable : Word, Word.majorOpcode.read syllable = 5 →
      (⟨34, 2⟩ : BitField).read syllable = 0 →
      ∃ encoding, lookup? .i syllable = some encoding ∧
        encoding.format = (TestCodes.ofSyllable syllable).format ∧
        encoding.operation.assembly = (TestCodes.ofSyllable syllable).assembly := by
  constructor
  -- The rows are those of the I unit; the M unit has the compares in common with it.
  · intro syllable compare
    have high : ∀ major ∈ CompareCodes.majors, 8 ≤ major := by decide
    have met : Meets (CompareCodes.ofSyllable syllable).conditions syllable := by
      simp [Meets, CompareCodes.conditions, CompareCodes.ofSyllable]
    have selected := CompareCodes.selects _ compare _ (BitField.read_lt ⟨34, 2⟩ syllable)
      _ (BitField.read_lt ⟨36, 1⟩ syllable) _ (BitField.read_lt ⟨33, 1⟩ syllable)
      _ (BitField.read_lt ⟨12, 1⟩ syllable)
    obtain ⟨encoding, found, format, assembly⟩ := exists_of_selects selected met
    exact ⟨encoding, (lookup?_m_eq_i (high _ compare)).trans found, found, format, assembly⟩
  · intro syllable major test
    have met : Meets (TestCodes.ofSyllable syllable).conditions syllable := by
      simp [Meets, TestCodes.conditions, TestCodes.ofSyllable, major, test]
    have selected := TestCodes.selects _ (BitField.read_lt ⟨13, 1⟩ syllable)
      _ (BitField.read_lt ⟨19, 1⟩ syllable) _ (BitField.read_lt ⟨36, 1⟩ syllable)
      _ (BitField.read_lt ⟨33, 1⟩ syllable) _ (BitField.read_lt ⟨12, 1⟩ syllable)
    exact exists_of_selects selected met

/-- `cmp4.ge.or.andcm` compares with zero, with all bits outside the codes set, and `tbit.nz.and` has
them clear. -/
theorem compares_and_tests_follow_rules_zero :
    (∃ encoding, lookup? .m 0xFFFFFFD7FFFFEFFF = some encoding ∧ encoding.format = .a7 ∧
      encoding.operation.assembly = ⟨.cmp4, [⟨.crel, .ge⟩, ⟨.ctype, .orAndcm⟩], .none⟩) ∧
    ∃ encoding, lookup? .i 0xB000001000 = some encoding ∧ encoding.format = .i16 ∧
      encoding.operation.assembly = ⟨.tbit, [⟨.trel, .nz⟩, ⟨.ctype, .and⟩], .none⟩ := by
  constructor
  · obtain ⟨encoding, found, _, format, assembly⟩ :=
      compares_and_tests_follow_rules.1 0xFFFFFFD7FFFFEFFF (by decide)
    exact ⟨encoding, found, format.trans (by decide), assembly.trans (by decide)⟩
  · obtain ⟨encoding, found, format, assembly⟩ :=
      compares_and_tests_follow_rules.2 0xB000001000 (by decide) (by decide)
    exact ⟨encoding, found, format.trans (by decide), assembly.trans (by decide)⟩

end Itanium
