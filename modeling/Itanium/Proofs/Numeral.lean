import Itanium.Text.Numeral
import Mathlib

/-!
# Numerals are read in one way

The digits of a number in a base up to sixteen determine it. A numeral of minimal width has no
padding, so it consists of the digits alone; numerals padded to one width determine the numbers that
fit it.
-/
namespace Itanium.Numeral

theorem digitChar_inj {left right : Nat} (leftBound : left < 16) (rightBound : right < 16)
    (equal : left.digitChar = right.digitChar) : left = right := by
  have checked : ∀ left < 16, ∀ right < 16,
      left.digitChar = right.digitChar → left = right := by decide
  exact checked left leftBound right rightBound equal

section Base

variable {base : Nat}

theorem exists_digit_of_mem_toDigits (large : 1 < base) {n : Nat} {c : Char}
    (member : c ∈ Nat.toDigits base n) : ∃ digit < base, c = digit.digitChar := by
  induction n using Nat.strongRecOn with
  | ind n ih =>
    -- The last digit is the remainder, the others are the digits of the quotient.
    rw [Nat.toDigits_eq_if large] at member
    split at member
    next small =>
      exact ⟨n, small, List.mem_singleton.mp member⟩
    next big =>
      rcases List.mem_append.mp member with higher | last
      · exact ih (n / base) (Nat.div_lt_self (by omega) large) higher
      · exact ⟨n % base, Nat.mod_lt _ (by omega), List.mem_singleton.mp last⟩

theorem toDigits_inj (large : 1 < base) (bounded : base ≤ 16) {left right : Nat}
    (equal : Nat.toDigits base left = Nat.toDigits base right) : left = right := by
  induction left using Nat.strongRecOn generalizing right with
  | ind left ih =>
    have leftDigits := @Nat.length_toDigits_pos base (left / base)
    have rightDigits := @Nat.length_toDigits_pos base (right / base)
    have lastLeft : left % base < 16 := Nat.lt_of_lt_of_le (Nat.mod_lt _ (by omega)) bounded
    have lastRight : right % base < 16 := Nat.lt_of_lt_of_le (Nat.mod_lt _ (by omega)) bounded
    -- Numbers below the base have one digit and all others have more, so no case is mixed.
    rw [Nat.toDigits_eq_if large, @Nat.toDigits_eq_if base right large] at equal
    split at equal
    next leftSmall =>
      split at equal
      next rightSmall =>
        exact digitChar_inj (by omega) (by omega) (List.singleton_inj.mp equal)
      next =>
        have lengths := congrArg List.length equal
        simp only [List.length_append, List.length_singleton] at lengths
        omega
    next leftBig =>
      split at equal
      next =>
        have lengths := congrArg List.length equal
        simp only [List.length_append, List.length_singleton] at lengths
        omega
      next =>
        obtain ⟨higher, last⟩ := List.append_inj' equal rfl
        have quotients := ih (left / base) (Nat.div_lt_self (by omega) large) higher
        have remainders := digitChar_inj lastLeft lastRight (List.singleton_inj.mp last)
        rw [← Nat.div_add_mod left base, ← Nat.div_add_mod right base, quotients, remainders]

/-- A padded numeral ends in the last digit. -/
theorem padLeft_toDigits (large : 1 < base) (width n : Nat) :
    padLeft (width + 2) '0' (Nat.toDigits base n) =
      padLeft (width + 1) '0' (Nat.toDigits base (n / base)) ++ [(n % base).digitChar] := by
  rw [Nat.toDigits_eq_if large]
  split
  -- A single digit stands behind zeros, the last of which is the numeral of the quotient.
  next small =>
    rw [Nat.div_eq_of_lt small, Nat.mod_eq_of_lt small, Nat.toDigits_zero, padLeft, padLeft,
      ← List.replicate_succ']
    rfl
  next =>
    have zeros (digits : Nat) : width + 2 - (digits + 1) = width + 1 - digits := by omega
    rw [padLeft, padLeft, List.length_append, List.length_singleton, zeros, List.append_assoc]

theorem padLeft_toDigits_inj (large : 1 < base) (bounded : base ≤ 16) {width left right : Nat}
    (leftBound : left < base ^ (width + 1)) (rightBound : right < base ^ (width + 1))
    (equal : padLeft (width + 1) '0' (Nat.toDigits base left) =
      padLeft (width + 1) '0' (Nat.toDigits base right)) : left = right := by
  induction width generalizing left right with
  | zero =>
    rw [Nat.zero_add, pow_one] at leftBound rightBound
    rw [Nat.toDigits_of_lt_base leftBound, Nat.toDigits_of_lt_base rightBound] at equal
    exact digitChar_inj (by omega) (by omega) (List.singleton_inj.mp equal)
  | succ width ih =>
    rw [padLeft_toDigits large, padLeft_toDigits large] at equal
    obtain ⟨higher, last⟩ := List.append_inj' equal rfl
    have leftQuotient : left / base < base ^ (width + 1) :=
      Nat.div_lt_of_lt_mul (by rwa [← pow_succ'])
    have rightQuotient : right / base < base ^ (width + 1) :=
      Nat.div_lt_of_lt_mul (by rwa [← pow_succ'])
    have lastLeft : left % base < 16 := Nat.lt_of_lt_of_le (Nat.mod_lt _ (by omega)) bounded
    have lastRight : right % base < 16 := Nat.lt_of_lt_of_le (Nat.mod_lt _ (by omega)) bounded
    have quotients := ih leftQuotient rightQuotient higher
    have remainders := digitChar_inj lastLeft lastRight (List.singleton_inj.mp last)
    rw [← Nat.div_add_mod left base, ← Nat.div_add_mod right base, quotients, remainders]

end Base

theorem toList_decimal (n : Nat) : (decimal n).toList = Nat.toDigits 10 n :=
  String.toList_ofList

theorem toList_hex_one (n : Nat) : (hex 1 n).toList = Nat.toDigits 16 n := by
  have digits := @Nat.length_toDigits_pos 16 n
  rw [hex, String.toList_ofList, padLeft, Nat.sub_eq_zero_of_le digits]
  rfl

theorem toList_hex (width n : Nat) :
    (hex width n).toList = padLeft width '0' (Nat.toDigits 16 n) :=
  String.toList_ofList

/-- A number that fits the width has a numeral of that width. -/
theorem length_hex {width n : Nat} (bound : n < 16 ^ (width + 1)) :
    (hex (width + 1) n).toList.length = width + 1 := by
  have few := Nat.toDigits_length 16 n (width + 1) width.succ_pos bound
  rw [toList_hex, padLeft, List.length_append, List.length_replicate]
  omega

theorem hex_inj {width left right : Nat} (leftBound : left < 16 ^ (width + 1))
    (rightBound : right < 16 ^ (width + 1))
    (equal : (hex (width + 1) left).toList = (hex (width + 1) right).toList) : left = right := by
  rw [toList_hex, toList_hex] at equal
  exact padLeft_toDigits_inj (by decide) (by decide) leftBound rightBound equal

theorem isDigit_of_mem_decimal {n : Nat} {c : Char} (member : c ∈ (decimal n).toList) :
    c.isDigit = true :=
  Nat.isDigit_of_mem_toDigits (by decide) (by decide) (toList_decimal n ▸ member)

theorem decimal_inj {left right : Nat} (equal : (decimal left).toList = (decimal right).toList) :
    left = right := by
  rw [toList_decimal, toList_decimal] at equal
  exact toDigits_inj (by decide) (by decide) equal

theorem hex_one_inj {left right : Nat} (equal : (hex 1 left).toList = (hex 1 right).toList) :
    left = right := by
  rw [toList_hex_one, toList_hex_one] at equal
  exact toDigits_inj (by decide) (by decide) equal

end Itanium.Numeral
