import Itanium.OpcodeSpace
import Mathlib

/-!
# Rules of the opcode space

A row of a page is a rule: fields that must hold given codes, and the encoding that they select. A
unit's lookup is a search through its rules, so what a lookup finds is a rule whose conditions the
syllable meets, and a property of every encoding of a unit is a check of a finite list.
-/
namespace Itanium.OpcodeSpace

structure Rule where
  conditions : List (BitField × Nat)
  encoding : Encoding

namespace Rule

def admits (rule : Rule) (syllable : Word) : Bool :=
  rule.conditions.all fun (field, code) => field.read syllable == code

def fields (rule : Rule) : List BitField :=
  rule.conditions.map (·.1)

theorem read_eq_of_admits {rule : Rule} {left right : Word} (leftMet : rule.admits left = true)
    (rightMet : rule.admits right = true) :
    ∀ field ∈ rule.fields, field.read left = field.read right := by
  simp only [admits, List.all_eq_true, beq_iff_eq] at leftMet rightMet
  intro field member
  obtain ⟨condition, listed, rfl⟩ := List.mem_map.mp member
  rw [leftMet condition listed, rightMet condition listed]

end Rule

namespace Page

def rule (page : Page) (row : Nat × Encoding) : Rule :=
  ⟨(page.key, row.1) :: page.guards, row.2⟩

def rules (page : Page) : List Rule :=
  page.rows.map page.rule

theorem admits_rule (page : Page) (row : Nat × Encoding) (syllable : Word) :
    (page.rule row).admits syllable = (page.key.read syllable == row.1 && page.admits syllable) :=
  rfl

theorem lookup?_eq_find (page : Page) (syllable : Word) :
    page.lookup? syllable = (page.rules.find? (·.admits syllable)).map Rule.encoding := by
  rw [lookup?, rules, List.find?_map, Option.map_map]
  -- The guards are conditions of every rule of the page, so they hold of all rows or of none.
  by_cases admitted : page.admits syllable = true
  · rw [if_pos admitted]
    induction page.rows with
    | nil => rfl
    | cons row rest ih =>
      rw [List.lookup_cons, List.find?_cons, Function.comp_apply, admits_rule, admitted,
        Bool.and_true]
      cases page.key.read syllable == row.1 with
      | true => rfl
      | false => exact ih
  · rw [if_neg admitted, List.find?_eq_none.mpr]
    · rfl
    · intro row _
      simp [admits_rule, admitted]

end Page

def rules (unit : ExecutionUnit) : List Rule :=
  (pages unit).flatMap Page.rules

/-- The first rule that admits a syllable gives its encoding. -/
theorem lookup?_eq_find (unit : ExecutionUnit) (syllable : Word) :
    lookup? unit syllable = ((rules unit).find? (·.admits syllable)).map Rule.encoding := by
  rw [lookup?, rules]
  induction pages unit with
  | nil => rfl
  | cons page rest ih =>
    rw [List.findSome?_cons, List.flatMap_cons, List.find?_append, Page.lookup?_eq_find, ih]
    cases page.rules.find? (·.admits syllable) <;> rfl

theorem exists_rule_of_lookup? {unit : ExecutionUnit} {syllable : Word} {encoding : Encoding}
    (found : lookup? unit syllable = some encoding) :
    ∃ rule ∈ rules unit, rule.admits syllable = true ∧ rule.encoding = encoding := by
  rw [lookup?_eq_find] at found
  obtain ⟨rule, first, rfl⟩ := Option.map_eq_some_iff.mp found
  have met := List.find?_some first
  exact ⟨rule, List.mem_of_find?_eq_some first, met, rfl⟩

/-- What holds of the encoding of each rule holds of every encoding that is found. -/
theorem of_lookup? (property : ExecutionUnit → Encoding → Prop)
    (checked : ∀ unit, ∀ rule ∈ rules unit, property unit rule.encoding)
    {unit : ExecutionUnit} {syllable : Word} {encoding : Encoding}
    (found : lookup? unit syllable = some encoding) : property unit encoding := by
  obtain ⟨rule, member, _, rfl⟩ := exists_rule_of_lookup? found
  exact checked unit rule member

/-- Only the X unit reads long immediates. -/
theorem isLong_iff_of_lookup? {unit : ExecutionUnit} {syllable : Word} {encoding : Encoding}
    (found : lookup? unit syllable = some encoding) :
    encoding.format.isLong = true ↔ unit = .x := by
  refine of_lookup? (fun unit encoding => encoding.format.isLong = true ↔ unit = .x) ?_ found
  intro unit
  cases unit <;> decide +kernel

end Itanium.OpcodeSpace
