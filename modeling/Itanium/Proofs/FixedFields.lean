import Itanium.Proofs.Exclusion
import Itanium.Proofs.Scatter

/-!
# What conditions fix

Conditions fix the bits of their fields and leave all others free. The pattern of the conditions is
the word that holds their codes and nothing else, and it stands for every word that meets them: in
each field within the fields of the conditions both read the same. So where every page of a unit
lies within these fields or wants other codes in them, the conditions alone decide what is found.
-/
namespace Itanium

open BitField

namespace BitField

/-! ### Fields within other fields -/

/-- Every bit of the field lies in one of the fields. -/
def isWithin (fields : List BitField) (field : BitField) : Bool :=
  field.mask &&& maskAll fields == field.mask

theorem exists_of_isWithin {fields : List BitField} {field : BitField}
    (within : isWithin fields field = true) {bit : Nat} (held : field.holds bit = true) :
    ∃ other ∈ fields, other.holds bit = true := by
  apply exists_of_testBit_maskAll
  have shared := congrArg (·.testBit bit) (eq_of_beq within)
  simpa only [Nat.testBit_and, testBit_mask, held, Bool.true_and] using shared

instance (fields : List BitField) (left right : Word) : Decidable (Agree fields left right) :=
  inferInstanceAs (Decidable (∀ field ∈ fields, field.read left = field.read right))

theorem Agree.of_isWithin {fields others : List BitField} {left right : Word}
    (agree : Agree fields left right) (within : others.all (isWithin fields) = true) :
    Agree others left right := by
  intro field member
  apply read_eq_of_getLsbD_eq
  intro bit _ held
  obtain ⟨other, listed, inside⟩ :=
    exists_of_isWithin (List.all_eq_true.mp within field member) held
  exact getLsbD_eq_of_read_eq (agree other listed) inside

/-- Clears the bits outside the fields. -/
def keep (fields : List BitField) (word : Word) : Word :=
  word &&& BitVec.ofNat 64 (maskAll fields)

theorem getLsbD_keep (fields : List BitField) (word : Word) {bit : Nat} (bound : bit < 64) :
    (keep fields word).getLsbD bit = (word.getLsbD bit && (maskAll fields).testBit bit) := by
  rw [keep, BitVec.getLsbD_and, BitVec.getLsbD_ofNat, decide_eq_true bound, Bool.true_and]

theorem agree_keep (fields : List BitField) (word : Word) :
    Agree fields (keep fields word) word := by
  intro field member
  apply read_eq_of_getLsbD_eq
  intro bit bound held
  rw [getLsbD_keep _ _ bound, testBit_maskAll_of_mem member held, Bool.and_true]

end BitField

namespace OpcodeSpace

/-! ### Conditions and their pattern -/

/-- The word holds the code of every condition. -/
def Meets (conditions : List (BitField × Nat)) (word : Word) : Prop :=
  ∀ condition ∈ conditions, condition.1.read word = condition.2

instance (conditions : List (BitField × Nat)) (word : Word) : Decidable (Meets conditions word) :=
  inferInstanceAs (Decidable (∀ condition ∈ conditions, condition.1.read word = condition.2))

/-- The word that holds the codes and no other bit. -/
def pattern (conditions : List (BitField × Nat)) : Word :=
  BitVec.ofNat 64 (fixedBits conditions)

section Conditions

variable {conditions : List (BitField × Nat)} {word : Word}

theorem all_read_iff : conditions.all (fun (field, code) => field.read word == code) = true ↔
    Meets conditions word := by
  rw [List.all_eq_true]
  exact forall₂_congr fun _ _ => beq_iff_eq

theorem agree_pattern (met : Meets conditions word) :
    Agree (conditions.map (·.1)) word (pattern conditions) := by
  have kept : keep (conditions.map (·.1)) word = pattern conditions := by
    rw [pattern, ← and_fixedMask (all_read_iff.mpr met), BitVec.ofNat_and, BitVec.ofNat_toNat,
      BitVec.setWidth_eq]
    rfl
  intro field member
  rw [← kept, agree_keep _ word field member]

theorem pattern_meets (met : Meets conditions word) : Meets conditions (pattern conditions) := by
  intro condition member
  rw [← agree_pattern met condition.1 (List.mem_map_of_mem member)]
  exact met condition member

/-- Words that meet conflicting conditions do not exist. -/
theorem not_meets_of_conflict {others : List (BitField × Nat)}
    (differ : conflict conditions others = true) (met : Meets conditions word) :
    ¬Meets others word := by
  rw [← all_read_iff]
  exact not_met_of_conflict differ (all_read_iff.mpr met)

end Conditions

/-! ### Rules and pages -/

theorem Rule.admits_iff {rule : Rule} {syllable : Word} :
    rule.admits syllable = true ↔ Meets rule.conditions syllable :=
  all_read_iff

/-- What a rule says about the fields within its own holds of every syllable that it admits. -/
theorem Rule.agree_pattern {rule : Rule} {syllable : Word} (admits : rule.admits syllable = true)
    {fields : List BitField} (within : fields.all (isWithin rule.fields) = true) :
    Agree fields syllable (pattern rule.conditions) :=
  (OpcodeSpace.agree_pattern (Rule.admits_iff.mp admits)).of_isWithin within

namespace Page

theorem admits_iff {page : Page} {syllable : Word} :
    page.admits syllable = true ↔ Meets page.guards syllable :=
  all_read_iff

def fields (page : Page) : List BitField :=
  page.key :: page.guards.map (·.1)

theorem lookup?_congr {page : Page} {left right : Word} (agree : Agree page.fields left right) :
    page.lookup? left = page.lookup? right := by
  have key : page.key.read left = page.key.read right := agree _ List.mem_cons_self
  have admitted : page.admits left = page.admits right := by
    rw [Bool.eq_iff_iff, admits_iff, admits_iff]
    apply forall₂_congr
    intro guard member
    rw [agree guard.1 (List.mem_cons_of_mem _ (List.mem_map_of_mem member))]
  rw [lookup?, lookup?, key, admitted]

theorem lookup?_of_conflict {page : Page} {conditions : List (BitField × Nat)}
    (differ : conflict conditions page.guards = true) {syllable : Word}
    (met : Meets conditions syllable) : page.lookup? syllable = none := by
  rw [lookup?, if_neg]
  rw [admits_iff]
  exact not_meets_of_conflict differ met

/-- The page wants other codes than the conditions, or reads nothing but their fields. -/
def isSettled (conditions : List (BitField × Nat)) (page : Page) : Bool :=
  conflict conditions page.guards || page.fields.all (isWithin (conditions.map (·.1)))

end Page

/-- Where every page is settled, the conditions decide what is found. -/
theorem lookup?_eq_pattern {unit : ExecutionUnit} {conditions : List (BitField × Nat)}
    (settled : (pages unit).all (Page.isSettled conditions) = true) {syllable : Word}
    (met : Meets conditions syllable) :
    lookup? unit syllable = lookup? unit (pattern conditions) := by
  rw [lookup?, lookup?, ← List.head?_filterMap, ← List.head?_filterMap]
  congr 1
  apply List.filterMap_congr
  intro page member
  have here := List.all_eq_true.mp settled page member
  rw [Page.isSettled, Bool.or_eq_true] at here
  -- Both words meet the conditions: a page refuses both, or cannot tell them apart.
  rcases here with differ | within
  · rw [Page.lookup?_of_conflict differ met, Page.lookup?_of_conflict differ (pattern_meets met)]
  · exact Page.lookup?_congr ((agree_pattern met).of_isWithin within)

end OpcodeSpace

end Itanium
