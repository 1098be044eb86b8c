import Itanium.Proofs.OpcodeSpace
import Itanium.Proofs.Table
import Itanium.Proofs.Word

/-!
# Rules exclude each other

No two rules of a unit admit one syllable. Conditions that a syllable meets fix some of its bits, so
lists of conditions that want different bits in one place are never met together. Two pages of a
unit differ in this way in their guards, or each rule of the one and each rule of the other do; two
rows of a page have different codes. So the order of the rules is free: any rule that admits a
syllable gives its encoding.
-/
namespace Itanium

/-! ### Conditions as bits -/

theorem BitField.and_mask (field : BitField) (word : Word) :
    word.toNat &&& field.mask = field.read word <<< field.offset := by
  apply Nat.eq_of_testBit_eq
  intro bit
  rw [Nat.testBit_and, testBit_mask, Nat.testBit_shiftLeft, testBit_read, BitVec.testBit_toNat,
    holds, Bool.and_comm]
  by_cases above : field.offset ≤ bit
  · have place : field.offset + (bit - field.offset) = bit := by omega
    have inside : bit < field.offset + field.width ↔ bit - field.offset < field.width := by omega
    simp only [above, place, inside, decide_true, Bool.true_and]
  · simp only [above, decide_false, Bool.false_and]

namespace OpcodeSpace

/-- The bits that the conditions are about. -/
def fixedMask (conditions : List (BitField × Nat)) : Nat :=
  BitField.maskAll (conditions.map (·.1))

/-- What a syllable that meets the conditions holds in these bits. -/
def fixedBits (conditions : List (BitField × Nat)) : Nat :=
  conditions.foldr (fun condition rest => condition.2 <<< condition.1.offset ||| rest) 0

/-- The conditions want different bits in one place. -/
def conflict (left right : List (BitField × Nat)) : Bool :=
  fixedMask left &&& fixedMask right &&& (fixedBits left ^^^ fixedBits right) != 0

theorem and_fixedMask {conditions : List (BitField × Nat)} {word : Word}
    (met : conditions.all (fun (field, code) => field.read word == code) = true) :
    word.toNat &&& fixedMask conditions = fixedBits conditions := by
  induction conditions with
  | nil => exact Nat.and_zero _
  | cons condition rest ih =>
    obtain ⟨field, code⟩ := condition
    rw [List.all_cons, Bool.and_eq_true, beq_iff_eq] at met
    obtain ⟨first, later⟩ := met
    change word.toNat &&& (field.mask ||| fixedMask rest) = code <<< field.offset ||| fixedBits rest
    rw [Nat.and_or_distrib_left, field.and_mask, first, ih later]

theorem not_met_of_conflict {left right : List (BitField × Nat)}
    (differ : conflict left right = true) {word : Word}
    (leftMet : left.all (fun (field, code) => field.read word == code) = true) :
    ¬right.all (fun (field, code) => field.read word == code) = true := by
  intro rightMet
  rw [conflict, bne_iff_ne, ← and_fixedMask leftMet, ← and_fixedMask rightMet] at differ
  apply differ
  apply Nat.eq_of_testBit_eq
  intro bit
  simp only [Nat.testBit_and, Nat.testBit_xor, Nat.zero_testBit]
  -- A bit of both masks is the word's own on either side.
  cases (fixedMask left).testBit bit <;> cases (fixedMask right).testBit bit <;> simp

/-! ### Rules and pages -/

namespace Rule

/-- No syllable meets the conditions of both. -/
def Excludes (left right : Rule) : Prop :=
  ∀ syllable, left.admits syllable = true → ¬right.admits syllable = true

end Rule

namespace Page

/-- The guards conflict, or each rule of the one page conflicts with each of the other. -/
def isApart (left right : Page) : Bool :=
  conflict left.guards right.guards ||
    left.rules.all fun first => right.rules.all fun second =>
      conflict first.conditions second.conditions

theorem admits_of_rule {page : Page} {rule : Rule} (member : rule ∈ page.rules) {syllable : Word}
    (admits : rule.admits syllable = true) : page.admits syllable = true := by
  obtain ⟨row, _, rfl⟩ := List.mem_map.mp member
  rw [admits_rule, Bool.and_eq_true] at admits
  exact admits.2

theorem excludes_of_isApart {left right : Page} (apart : left.isApart right = true) :
    ∀ first ∈ left.rules, ∀ second ∈ right.rules, first.Excludes second := by
  intro first inLeft second inRight syllable firstAdmits secondAdmits
  rw [isApart, Bool.or_eq_true] at apart
  rcases apart with guards | conditions
  · exact not_met_of_conflict guards (admits_of_rule inLeft firstAdmits)
      (admits_of_rule inRight secondAdmits)
  · have differ := List.all_eq_true.mp (List.all_eq_true.mp conditions first inLeft) second inRight
    exact not_met_of_conflict differ firstAdmits secondAdmits

/-- The rows of a page with different codes exclude each other. -/
theorem pairwise_excludes {page : Page}
    (distinct : distinctFrom 0 (page.rows.map (·.1)) = true) :
    page.rules.Pairwise Rule.Excludes := by
  have codes := (nodup_of_distinctFrom distinct).1
  rw [List.Nodup, List.pairwise_map] at codes
  rw [rules, List.pairwise_map]
  refine codes.imp ?_
  intro left right different syllable leftAdmits rightAdmits
  rw [admits_rule, Bool.and_eq_true, beq_iff_eq] at leftAdmits rightAdmits
  exact different (leftAdmits.1.symm.trans rightAdmits.1)

end Page

/-! ### The units -/

theorem pages_apart (unit : ExecutionUnit) :
    (pages unit).Pairwise fun left right => left.isApart right = true := by
  cases unit <;> decide +kernel

theorem codes_distinct (unit : ExecutionUnit) :
    ∀ page ∈ pages unit, distinctFrom 0 (page.rows.map (·.1)) = true := by
  cases unit <;> decide +kernel

theorem pairwise_excludes (unit : ExecutionUnit) : (rules unit).Pairwise Rule.Excludes := by
  rw [rules, List.pairwise_flatMap]
  exact ⟨fun page member => Page.pairwise_excludes (codes_distinct unit page member),
    (pages_apart unit).imp Page.excludes_of_isApart⟩

/-- A rule that admits a syllable gives its encoding, wherever it stands. -/
theorem lookup?_of_admits {unit : ExecutionUnit} {rule : Rule} (member : rule ∈ rules unit)
    {syllable : Word} (admits : rule.admits syllable = true) :
    lookup? unit syllable = some rule.encoding := by
  rw [lookup?_eq_find]
  have exclusive := pairwise_excludes unit
  -- A rule before it would exclude it, so the search stops at this one.
  generalize rules unit = listed at member exclusive
  induction listed with
  | nil => cases member
  | cons head rest ih =>
    obtain ⟨apart, later⟩ := List.pairwise_cons.mp exclusive
    rcases List.mem_cons.mp member with rfl | behind
    · rw [List.find?_cons, admits, Option.map_some]
    · have refuses : ¬head.admits syllable = true :=
        fun headAdmits => apart rule behind syllable headAdmits admits
      rw [List.find?_cons, Bool.eq_false_iff.mpr refuses]
      exact ih behind later

end OpcodeSpace

end Itanium
