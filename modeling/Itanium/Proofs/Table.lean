import Mathlib

/-!
# Tables

What is said of every member of a large type is checked along its numbering. That the members differ
is checked by giving each a number and looking the numbers up in a set that is kept as the bits of
one number: one step for each member, where comparing them in pairs takes the square.
-/
namespace Itanium

/-- No number occurs twice, and none is among the bits of `seen`. -/
def distinctFrom (seen : Nat) : List Nat → Bool
  | [] => true
  | number :: rest => !seen.testBit number && distinctFrom (seen ||| 1 <<< number) rest

theorem nodup_of_distinctFrom {seen : Nat} {numbers : List Nat}
    (checked : distinctFrom seen numbers = true) :
    numbers.Nodup ∧ ∀ number ∈ numbers, seen.testBit number = false := by
  induction numbers generalizing seen with
  | nil => simp
  | cons number rest ih =>
    simp only [distinctFrom, Bool.and_eq_true, Bool.not_eq_true'] at checked
    obtain ⟨unseen, later⟩ := checked
    obtain ⟨nodup, fresh⟩ := ih later
    -- What comes later is fresh for the larger set, so it was not in the smaller one either.
    have split : ∀ other ∈ rest, seen.testBit other = false ∧ number ≠ other := by
      intro other member
      have free := fresh other member
      rw [Nat.testBit_or, Bool.or_eq_false_iff, Nat.one_shiftLeft, Nat.testBit_two_pow] at free
      exact ⟨free.1, of_decide_eq_false free.2⟩
    constructor
    · exact List.nodup_cons.mpr ⟨fun again => (split number again).2 rfl, nodup⟩
    · intro other member
      rcases List.mem_cons.mp member with rfl | later
      · exact unseen
      · exact (split other later).1

/-- Members of a table with equal numbers are equal. -/
theorem eq_of_distinct {α : Type} {number : α → Nat} {table : List α}
    (checked : distinctFrom 0 (table.map number) = true) {left right : α}
    (leftListed : left ∈ table) (rightListed : right ∈ table)
    (equal : number left = number right) : left = right :=
  List.inj_on_of_nodup_map (nodup_of_distinctFrom checked).1 leftListed rightListed equal

/-- A number for a text, small enough to be the place of a bit. -/
def textNumber (text : List Char) : Nat :=
  text.foldl (fun number c => (number * 256 + c.toNat) % 1048573) 0

/-- The members of a type, numbered below a bound. -/
structure Numbering (α : Type) where
  count : Nat
  index : α → Nat
  member : Nat → α
  index_lt : ∀ a, index a < count
  member_index : ∀ a, member (index a) = a

namespace Numbering

variable {α : Type} (numbering : Numbering α)

theorem forall_of_index (property : α → Prop)
    (checked : ∀ index < numbering.count, property (numbering.member index)) (a : α) :
    property a := by
  have holds := checked (numbering.index a) (numbering.index_lt a)
  rwa [numbering.member_index] at holds

theorem inj_of_distinct (number : α → Nat)
    (checked : distinctFrom 0
      ((List.range numbering.count).map fun index => number (numbering.member index)) = true)
    {left right : α} (equal : number left = number right) : left = right := by
  have same := eq_of_distinct checked (List.mem_range.mpr (numbering.index_lt left))
    (List.mem_range.mpr (numbering.index_lt right))
    (by rw [numbering.member_index, numbering.member_index, equal])
  rw [← numbering.member_index left, same, numbering.member_index]

end Numbering

end Itanium
