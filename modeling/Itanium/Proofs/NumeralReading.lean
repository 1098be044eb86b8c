import Itanium.Proofs.Numeral

/-!
# Numerals are read back

A reader takes digits from the left, so it reads the digits in front first and goes on from there.
What it reads from the digits of a number below its limit is the number. Zeros in front add nothing,
and the case of the digits does not matter.
-/
namespace Itanium.Numeral

section Reading

variable {base limit : Nat}

/-- What is read of the front is where reading the rest begins. -/
theorem accumulate_append {value middle : Nat} {front : List Char}
    (read : accumulate base limit value front = .ok middle) (rest : List Char) :
    accumulate base limit value (front ++ rest) = accumulate base limit middle rest := by
  induction front generalizing value with
  | nil =>
    cases read
    rfl
  | cons c front ih =>
    rw [accumulate] at read
    rw [List.cons_append, accumulate]
    cases found : digitValue? base c with
    | none => simp [found] at read
    -- The digit stays below the limit, or nothing would have been read.
    | some digit =>
      simp only [found] at read ⊢
      split at read
      · cases read
      next below =>
        rw [if_neg below]
        exact ih read

theorem accumulate_singleton {value digit : Nat} {c : Char}
    (found : digitValue? base c = some digit) (bound : value * base + digit < limit) :
    accumulate base limit value [c] = .ok (value * base + digit) := by
  simp only [accumulate, found]
  exact if_neg (Nat.not_le.mpr bound)

/-- The digits may be spelled in any way that keeps their values. -/
theorem accumulate_toDigits {spell : Char → Char} (large : 1 < base)
    (spelled : ∀ digit < base, digitValue? base (spell digit.digitChar) = some digit) {n : Nat}
    (bound : n < limit) :
    accumulate base limit 0 ((Nat.toDigits base n).map spell) = .ok n := by
  induction n using Nat.strongRecOn with
  | ind n ih =>
    rw [Nat.toDigits_eq_if large]
    split
    next small =>
      rw [List.map_singleton, accumulate_singleton (spelled n small) (by omega), Nat.zero_mul,
        Nat.zero_add]
    next big =>
      -- The quotient is read first, and the last digit makes it the number again.
      have smaller : n / base < n := Nat.div_lt_self (by omega) large
      have last : n % base < base := Nat.mod_lt _ (by omega)
      have whole : n / base * base + n % base = n := Nat.div_add_mod' n base
      rw [List.map_append, accumulate_append (ih (n / base) smaller (by omega)), List.map_singleton,
        accumulate_singleton (spelled _ last) (by omega), whole]

theorem accumulate_padLeft (zero : digitValue? base '0' = some 0) (positive : 0 < limit)
    (width : Nat) (digits : List Char) :
    accumulate base limit 0 (padLeft width '0' digits) = accumulate base limit 0 digits := by
  rw [padLeft]
  induction width - digits.length with
  | zero => rfl
  | succ zeros ih =>
    have one : accumulate base limit 0 ['0'] = .ok 0 := by
      rw [accumulate_singleton zero (by omega), Nat.zero_mul]
    rw [List.replicate_succ, List.cons_append, ← List.singleton_append, accumulate_append one, ih]

/-- No digit looks like a sign, so what is read as digits is read as a numeral. -/
theorem parse_of_accumulate {text : List Char} {n : Nat} (nonempty : text ≠ [])
    (read : accumulate base limit 0 text = .ok n) : parse base limit text = .ok n := by
  have sign (rest : List Char) : accumulate base limit 0 ('+' :: rest) = .error .invalidDigit := rfl
  unfold parse
  split
  · exact absurd rfl nonempty
  · cases (sign []).symm.trans read
  next digits _ => cases (sign digits).symm.trans read
  · exact read

end Reading

theorem padLeft_ne_nil (width : Nat) {digits : List Char} (nonempty : digits ≠ []) :
    padLeft width '0' digits ≠ [] :=
  List.append_ne_nil_of_right_ne_nil _ nonempty

theorem digitValue?_toUpper {digit : Nat} (bound : digit < 16) :
    digitValue? 16 digit.digitChar.toUpper = some digit := by
  have checked : ∀ digit < 16, digitValue? 16 digit.digitChar.toUpper = some digit := by decide
  exact checked digit bound

/-- A padded numeral is read back. -/
theorem parse_padLeft_toDigits {base : Nat} {spell : Char → Char} (large : 1 < base)
    (spelled : ∀ digit < base, digitValue? base (spell digit.digitChar) = some digit)
    (zero : digitValue? base '0' = some 0) (width : Nat) {limit n : Nat} (bound : n < limit) :
    parse base limit (padLeft width '0' ((Nat.toDigits base n).map spell)) = .ok n := by
  have digits := accumulate_toDigits large spelled bound
  have nonempty : (Nat.toDigits base n).map spell ≠ [] :=
    List.map_eq_nil_iff.not.mpr Nat.toDigits_ne_nil
  apply parse_of_accumulate (padLeft_ne_nil width nonempty)
  rw [accumulate_padLeft zero (by omega), digits]

theorem parse_upperHex (width : Nat) {limit n : Nat} (bound : n < limit) :
    parse 16 limit (upperHex width n).toList = .ok n := by
  rw [upperHex, String.toList_ofList]
  exact parse_padLeft_toDigits (by decide) (fun _ => digitValue?_toUpper) rfl width bound

theorem parse_hex (width : Nat) {limit n : Nat} (bound : n < limit) :
    parse 16 limit (hex width n).toList = .ok n := by
  rw [hex, String.toList_ofList, ← List.map_id (Nat.toDigits 16 n)]
  exact parse_padLeft_toDigits (by decide) (by decide) rfl width bound

theorem parse_decimal {limit n : Nat} (bound : n < limit) :
    parse 10 limit (decimal n).toList = .ok n := by
  have digits := @parse_padLeft_toDigits 10 id (by decide) (by decide) rfl 0 limit n bound
  rw [padLeft, Nat.zero_sub, List.map_id] at digits
  rw [toList_decimal]
  exact digits

theorem length_upperHex {width n : Nat} (bound : n < 16 ^ (width + 1)) :
    (upperHex (width + 1) n).toList.length = width + 1 := by
  have few := Nat.toDigits_length 16 n (width + 1) width.succ_pos bound
  rw [upperHex, String.toList_ofList, padLeft, List.length_append, List.length_replicate,
    List.length_map]
  omega

end Itanium.Numeral
