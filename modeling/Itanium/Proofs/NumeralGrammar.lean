import Itanium.Proofs.NumeralReading

/-!
# The grammar of numerals

A numeral is a run of digits, in either case, behind one plus sign at most. A reader accepts exactly
the numerals of the numbers below its limit. Whatever zeros stand in front, it gives the number that
the digits denote, and it refuses the numerals of all other numbers as too large.
-/
namespace Itanium.Numeral

/-- A character that stands for a digit of a base, in either case. -/
def IsDigit (base digit : Nat) (c : Char) : Prop :=
  digit < base ∧ (c = digit.digitChar ∨ c = digit.digitChar.toUpper)

instance (base digit : Nat) (c : Char) : Decidable (IsDigit base digit c) :=
  inferInstanceAs (Decidable (_ ∧ _))

/-- The number that digits denote, the highest first. -/
def Denotes (base : Nat) (text : List Char) (number : Nat) : Prop :=
  ∃ digits, List.Forall₂ (IsDigit base) digits text ∧ Nat.ofDigits base digits.reverse = number

/-- One digit or more, behind an optional plus sign. -/
def IsNumeral (base : Nat) (text : List Char) (number : Nat) : Prop :=
  ∃ digits ≠ [], (text = digits ∨ text = '+' :: digits) ∧ Denotes base digits number

/-! ### Digits -/

section Digits

variable {base digit : Nat} {c : Char}

/-- A character of a range is spelled by its distance from the first one. -/
theorem eq_spell_of_range (spell : Nat → Char) {first last : Char}
    (range : first ≤ c ∧ c ≤ last) (spelled : ∀ distance ≤ last.toNat - first.toNat,
      Char.ofNat (first.toNat + distance) = spell distance) :
    c = spell (c.toNat - first.toNat) := by
  have lower : first.toNat ≤ c.toNat := range.1
  have upper : c.toNat ≤ last.toNat := range.2
  rw [← spelled _ (Nat.sub_le_sub_right upper _), Nat.add_sub_cancel' lower, Char.ofNat_toNat]

theorem isDigit_of_digitValue? (found : digitValue? base c = some digit) :
    IsDigit base digit c := by
  obtain ⟨value, bound⟩ := Option.filter_eq_some_iff.mp found
  refine ⟨of_decide_eq_true bound, ?_⟩
  split at value
  next decimal =>
    obtain rfl := Option.some.inj value
    exact .inl (eq_spell_of_range (fun digit => digit.digitChar) decimal (by decide))
  split at value
  next lower =>
    obtain rfl := Option.some.inj value
    exact .inl (eq_spell_of_range (fun digit => (digit + 10).digitChar) lower (by decide))
  split at value
  next upper =>
    obtain rfl := Option.some.inj value
    exact .inr (eq_spell_of_range (fun digit => (digit + 10).digitChar.toUpper) upper (by decide))
  · cases value

/-- What holds of the spellings of every digit holds of every digit. -/
theorem IsDigit.of_spellings {p : Nat → Char → Prop}
    (checked : ∀ digit < 16, p digit digit.digitChar ∧ p digit digit.digitChar.toUpper)
    (small : base ≤ 16) (spelled : IsDigit base digit c) : p digit c := by
  obtain ⟨bound, cases⟩ := spelled
  obtain ⟨lower, upper⟩ := checked digit (Nat.lt_of_lt_of_le bound small)
  rcases cases with rfl | rfl
  · exact lower
  · exact upper

theorem digitValue?_of_isDigit (small : base ≤ 16) (spelled : IsDigit base digit c) :
    digitValue? base c = some digit := by
  have found : digitValue? 16 c = some digit :=
    spelled.of_spellings (p := fun digit c => digitValue? 16 c = some digit) (by decide) small
  -- A smaller base keeps the values that are below it.
  obtain ⟨value, _⟩ := Option.filter_eq_some_iff.mp found
  exact Option.filter_eq_some_iff.mpr ⟨value, decide_eq_true spelled.1⟩

end Digits

/-! ### Reading digits -/

section Reading

variable {base limit : Nat}

/-- The number that is read when digits follow a number that is already read. -/
def appendDigits (base number : Nat) (digits : List Nat) : Nat :=
  digits.foldl (fun number digit => digit + base * number) number

theorem appendDigits_zero (base : Nat) (digits : List Nat) :
    appendDigits base 0 digits = Nat.ofDigits base digits.reverse := by
  rw [appendDigits, Nat.ofDigits_eq_foldr, List.foldr_reverse]
  rfl

theorem le_appendDigits (positive : 0 < base) (number : Nat) (digits : List Nat) :
    number ≤ appendDigits base number digits := by
  induction digits generalizing number with
  | nil => exact Nat.le_refl number
  | cons digit rest ih =>
    calc number
      _ ≤ base * number := Nat.le_mul_of_pos_left number positive
      _ ≤ digit + base * number := Nat.le_add_left _ digit
      _ ≤ appendDigits base number (digit :: rest) := ih _

/-- The reader stops where the number reaches the limit, and digits that follow never take it back
below. -/
theorem accumulate_of_isDigit (positive : 0 < base) (small : base ≤ 16) {number : Nat}
    {digits : List Nat} {text : List Char} (spelled : List.Forall₂ (IsDigit base) digits text)
    (bound : number < limit) :
    accumulate base limit number text =
      if appendDigits base number digits < limit then .ok (appendDigits base number digits)
      else .error .tooLarge := by
  induction spelled generalizing number with
  | nil =>
    rw [accumulate, appendDigits, List.foldl_nil, if_pos bound]
  | @cons digit c digits text first _ ih =>
    have next : number * base + digit = digit + base * number := by
      rw [Nat.mul_comm, Nat.add_comm]
    rw [accumulate, digitValue?_of_isDigit small first]
    simp only [next]
    split
    next large =>
      have above : limit ≤ appendDigits base number (digit :: digits) :=
        Nat.le_trans large (le_appendDigits positive _ digits)
      rw [if_neg (Nat.not_lt.mpr above)]
    next below => exact ih (Nat.not_le.mp below)

theorem exists_digits_of_accumulate {number result : Nat} {text : List Char}
    (read : accumulate base limit number text = .ok result) :
    ∃ digits, List.Forall₂ (IsDigit base) digits text := by
  induction text generalizing number with
  | nil => exact ⟨[], .nil⟩
  | cons c rest ih =>
    rw [accumulate] at read
    cases found : digitValue? base c with
    | none => simp [found] at read
    | some digit =>
      simp only [found] at read
      split at read
      · cases read
      · obtain ⟨digits, spelled⟩ := ih read
        exact ⟨digit :: digits, .cons (isDigit_of_digitValue? found) spelled⟩

/-- What is read are the digits of a number below the limit. -/
theorem accumulate_zero_eq_ok_iff (positive : 0 < base) (small : base ≤ 16) (room : 0 < limit)
    {text : List Char} {number : Nat} :
    accumulate base limit 0 text = .ok number ↔ number < limit ∧ Denotes base text number := by
  constructor
  · intro read
    obtain ⟨digits, spelled⟩ := exists_digits_of_accumulate read
    rw [accumulate_of_isDigit positive small spelled room, appendDigits_zero] at read
    split at read
    next below =>
      cases read
      exact ⟨below, digits, spelled, rfl⟩
    · cases read
  · rintro ⟨below, digits, spelled, rfl⟩
    rw [accumulate_of_isDigit positive small spelled room, appendDigits_zero, if_pos below]

/-! ### Reading numerals -/

/-- A sign is no digit. -/
theorem not_isDigit_plus (small : base ≤ 16) (digit : Nat) : ¬IsDigit base digit '+' := by
  intro spelled
  exact spelled.of_spellings (p := fun _ c => c ≠ '+') (by decide) small rfl

theorem parse_plus {digits : List Char} (nonempty : digits ≠ []) :
    parse base limit ('+' :: digits) = accumulate base limit 0 digits := by
  cases digits with
  | nil => contradiction
  | cons => rfl

theorem parse_of_head_ne_plus {c : Char} (other : c ≠ '+') (rest : List Char) :
    parse base limit (c :: rest) = accumulate base limit 0 (c :: rest) := by
  unfold parse
  split
  · contradiction
  next equal => exact absurd (List.cons.inj equal).1 other
  next equal => exact absurd (List.cons.inj equal).1 other
  · rfl

variable (positive : 0 < base) (small : base ≤ 16) (room : 0 < limit)

include positive small room

/-- A numeral is read, or its number is too large. -/
theorem parse_of_isNumeral {text : List Char} {number : Nat}
    (numeral : IsNumeral base text number) :
    parse base limit text = if number < limit then .ok number else .error .tooLarge := by
  obtain ⟨text', nonempty, sign, digits, spelled, rfl⟩ := numeral
  have read := accumulate_of_isDigit positive small spelled room
  rw [appendDigits_zero] at read
  rw [← read]
  rcases sign with rfl | rfl
  · cases spelled with
    | nil => contradiction
    | cons first others =>
      apply parse_of_head_ne_plus
      rintro rfl
      exact not_isDigit_plus small _ first
  · exact parse_plus nonempty

theorem parse_eq_ok_iff {text : List Char} {number : Nat} :
    parse base limit text = .ok number ↔ number < limit ∧ IsNumeral base text number := by
  constructor
  · intro read
    have digits {text : List Char} :=
      (@accumulate_zero_eq_ok_iff _ _ positive small room text number).mp
    unfold parse at read
    split at read
    · cases read
    · cases read
    next text behind =>
      obtain ⟨below, denotes⟩ := digits read
      exact ⟨below, text, by simpa using behind, .inr rfl, denotes⟩
    next nonempty _ _ =>
      obtain ⟨below, denotes⟩ := digits read
      exact ⟨below, text, nonempty, .inl rfl, denotes⟩
  · rintro ⟨below, numeral⟩
    rw [parse_of_isNumeral positive small room numeral, if_pos below]

end Reading

/-! ### Short numerals -/

theorem denotes_singleton_iff {base number : Nat} {c : Char} :
    Denotes base [c] number ↔ IsDigit base number c := by
  constructor
  · rintro ⟨digits, spelled, rfl⟩
    cases spelled with
    | cons first rest =>
      cases rest
      rwa [List.reverse_singleton, Nat.ofDigits_singleton]
  · intro digit
    exact ⟨[number], .cons digit .nil, Nat.ofDigits_singleton⟩

theorem denotes_pair_iff {base number : Nat} {high low : Char} :
    Denotes base [high, low] number ↔ IsDigit base (number / base) high ∧
      IsDigit base (number % base) low := by
  constructor
  · rintro ⟨digits, spelled, rfl⟩
    cases spelled with
    | @cons first _ _ _ highDigit rest =>
      cases rest with
      | @cons second _ _ _ lowDigit rest =>
        cases rest
        have value : Nat.ofDigits base [first, second].reverse = second + base * first := by
          simp [Nat.ofDigits_cons]
        have positive : 0 < base := Nat.zero_lt_of_lt lowDigit.1
        rw [value, Nat.add_mul_div_left _ _ positive, Nat.div_eq_of_lt lowDigit.1, Nat.zero_add,
          Nat.add_mul_mod_self_left, Nat.mod_eq_of_lt lowDigit.1]
        exact ⟨highDigit, lowDigit⟩
  · rintro ⟨highDigit, lowDigit⟩
    refine ⟨[number / base, number % base], .cons highDigit (.cons lowDigit .nil), ?_⟩
    simp [Nat.ofDigits_cons, Nat.mod_add_div]

/-- Two characters are two digits, or a sign and a digit. -/
theorem isNumeral_pair_iff {base number : Nat} {high low : Char} :
    IsNumeral base [high, low] number ↔
      (IsDigit base (number / base) high ∧ IsDigit base (number % base) low) ∨
        high = '+' ∧ IsDigit base number low := by
  rw [← denotes_pair_iff, ← denotes_singleton_iff]
  constructor
  · rintro ⟨digits, _, rfl | sign, denotes⟩
    · exact .inl denotes
    · obtain ⟨rfl, rfl⟩ := List.cons.inj sign
      exact .inr ⟨rfl, denotes⟩
  · rintro (denotes | ⟨rfl, denotes⟩)
    · exact ⟨_, List.cons_ne_nil _ _, .inl rfl, denotes⟩
    · exact ⟨_, List.cons_ne_nil _ _, .inr rfl, denotes⟩

/-! ### Characters of a numeral -/

section Characters

variable {base number : Nat} {text : List Char} {c : Char}

theorem Denotes.isDigit_of_mem (denotes : Denotes base text number) (member : c ∈ text) :
    ∃ digit, IsDigit base digit c := by
  obtain ⟨digits, spelled, equal⟩ := denotes
  clear equal
  induction spelled with
  | nil => cases member
  | @cons digit _ _ _ first _ ih =>
    rcases List.mem_cons.mp member with rfl | later
    · exact ⟨digit, first⟩
    · exact ih later

/-- What holds of the sign and of every digit holds of a numeral. -/
theorem IsNumeral.forall_mem {p : Char → Prop} (sign : p '+')
    (checked : ∀ digit < 16, p digit.digitChar ∧ p digit.digitChar.toUpper) (small : base ≤ 16)
    (numeral : IsNumeral base text number) : ∀ c ∈ text, p c := by
  obtain ⟨digits, _, spelled, denotes⟩ := numeral
  have each : ∀ c ∈ digits, p c := by
    intro c member
    obtain ⟨digit, isDigit⟩ := denotes.isDigit_of_mem member
    exact isDigit.of_spellings checked small
  rcases spelled with rfl | rfl
  · exact each
  · exact List.forall_mem_cons.mpr ⟨sign, each⟩

end Characters

/-! ### Numerals that are written -/

theorem isNumeral_decimal (n : Nat) : IsNumeral 10 (decimal n).toList n :=
  ((parse_eq_ok_iff (by decide) (by decide) n.succ_pos).mp (parse_decimal n.lt_succ_self)).2

theorem isNumeral_hex (width n : Nat) : IsNumeral 16 (hex width n).toList n :=
  ((parse_eq_ok_iff (by decide) (by decide) n.succ_pos).mp (parse_hex width n.lt_succ_self)).2

theorem isNumeral_upperHex (width n : Nat) : IsNumeral 16 (upperHex width n).toList n :=
  ((parse_eq_ok_iff (by decide) (by decide) n.succ_pos).mp (parse_upperHex width n.lt_succ_self)).2

end Itanium.Numeral
