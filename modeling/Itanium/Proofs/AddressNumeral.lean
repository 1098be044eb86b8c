import Itanium.Address
import Itanium.Proofs.NumeralGrammar
import Itanium.Proofs.TextParts

/-!
# Numerals of addresses

An address is read from what is left of a text between its blanks and without its underscores. That
is a hexadecimal numeral behind a mark, or a decimal numeral without one, of a number below
`2 ^ 64`. A larger number is refused and no other text is read, so every address is the number that
stands there; and what is written for an address is read as this address.
-/
namespace Itanium.Address

open Numeral Text

/-- The base of a numeral and its digits: hexadecimal behind a mark, decimal without. -/
inductive IsSplit (numeral : List Char) : Nat → List Char → Prop
  | hex {digits : List Char} (marked : IsMarked numeral digits) : IsSplit numeral 16 digits
  | decimal (plain : ∀ digits, ¬IsMarked numeral digits) : IsSplit numeral 10 numeral

def Denotes (numeral : List Char) (number : Nat) : Prop :=
  ∃ base digits, IsSplit numeral base digits ∧ IsNumeral base digits number

/-- What is written for an address: decimal digits, or hexadecimal digits of any width and of either
case behind a mark. -/
def IsWritten (numeral : List Char) (address : Word) : Prop :=
  numeral = (Numeral.decimal address.toNat).toList ∨
    ∃ width, ∃ digits ∈ [Numeral.hex width address.toNat, Numeral.upperHex width address.toNat],
      IsMarked numeral digits.toList

/-! ### Reading -/

namespace IsSplit

variable {numeral digits : List Char} {base : Nat}

theorem bounds (split : IsSplit numeral base digits) : 0 < base ∧ base ≤ 16 := by
  cases split <;> decide

theorem exists_digits (numeral : List Char) : ∃ base digits, IsSplit numeral base digits := by
  by_cases marked : ∃ digits, IsMarked numeral digits
  · obtain ⟨digits, marked⟩ := marked
    exact ⟨16, digits, .hex marked⟩
  · exact ⟨10, numeral, .decimal (not_exists.mp marked)⟩

end IsSplit

section Reading

variable {text : String} {number : Nat} {address : Word}

theorem parse_of_isSplit {base : Nat} {digits : List Char}
    (split : IsSplit (normalize text) base digits) :
    parse text = ((Numeral.parse base Word.count digits).map (BitVec.ofNat 64)).mapError
      (AddressError.mk (String.ofList (normalize text))) := by
  cases split with
  | hex marked =>
    simp only [parse, splitHexMark_of_isMarked marked, if_true]
    cases Numeral.parse 16 Word.count digits <;> rfl
  | decimal plain =>
    simp only [parse, splitHexMark_of_not_isMarked plain, Bool.false_eq_true, if_false]
    cases Numeral.parse 10 Word.count (normalize text) <;> rfl

theorem parse_of_denotes (denotes : Denotes (normalize text) number) :
    parse text = if number < 2 ^ 64 then .ok (BitVec.ofNat 64 number)
      else .error ⟨String.ofList (normalize text), .tooLarge⟩ := by
  obtain ⟨base, digits, split, numeral⟩ := denotes
  have read := parse_of_isNumeral split.bounds.1 split.bounds.2 (Nat.two_pow_pos 64) numeral
  rw [parse_of_isSplit split, show Word.count = 2 ^ 64 from rfl, read]
  by_cases below : number < 2 ^ 64
  · rw [if_pos below, if_pos below]
    rfl
  · rw [if_neg below, if_neg below]
    rfl

theorem denotes_of_parse (read : parse text = .ok address) :
    Denotes (normalize text) address.toNat := by
  obtain ⟨base, digits, split⟩ := IsSplit.exists_digits (normalize text)
  refine ⟨base, digits, split, ?_⟩
  rw [parse_of_isSplit split] at read
  cases value : Numeral.parse base Word.count digits with
  | error cause =>
    rw [value] at read
    cases read
  | ok number =>
    rw [value] at read
    obtain rfl := Except.ok.inj read
    obtain ⟨below, numeral⟩ :=
      (parse_eq_ok_iff split.bounds.1 split.bounds.2 (by decide)).mp value
    rwa [BitVec.toNat_ofNat, Nat.mod_eq_of_lt (show number < 2 ^ 64 from below)]

theorem parse_eq_ok_iff_denotes :
    parse text = .ok address ↔ Denotes (normalize text) address.toNat := by
  constructor
  · exact denotes_of_parse
  · intro denotes
    rw [parse_of_denotes denotes, if_pos address.isLt, BitVec.ofNat_toNat, BitVec.setWidth_eq]

/-- A text is read or refused for what is left of it. -/
theorem exists_error_of_not_denotes (other : ∀ number, ¬Denotes (normalize text) number) :
    ∃ cause, parse text = .error ⟨String.ofList (normalize text), cause⟩ := by
  obtain ⟨base, digits, split⟩ := IsSplit.exists_digits (normalize text)
  rw [parse_of_isSplit split]
  cases value : Numeral.parse base Word.count digits with
  | error cause => exact ⟨cause, rfl⟩
  | ok number =>
    have numeral := ((parse_eq_ok_iff split.bounds.1 split.bounds.2 (by decide)).mp value).2
    exact absurd ⟨base, digits, split, numeral⟩ (other number)

end Reading

/-! ### Writing -/

theorem not_isMarked_of_isNumeral {base number : Nat} {numeral : List Char} (small : base ≤ 16)
    (isNumeral : IsNumeral base numeral number) : ∀ digits, ¬IsMarked numeral digits :=
  not_isMarked_of_forall_mem (isNumeral.forall_mem (by decide) (by decide) small)

theorem IsWritten.denotes {numeral : List Char} {address : Word}
    (written : IsWritten numeral address) : Denotes numeral address.toNat := by
  rcases written with rfl | ⟨width, digits, member, marked⟩
  · have isNumeral := isNumeral_decimal address.toNat
    exact ⟨10, _, .decimal (not_isMarked_of_isNumeral (by decide) isNumeral), isNumeral⟩
  · refine ⟨16, digits.toList, .hex marked, ?_⟩
    rcases List.mem_pair.mp member with rfl | rfl
    · exact isNumeral_hex width address.toNat
    · exact isNumeral_upperHex width address.toNat

/-- No character of a numeral is a blank. -/
theorem Denotes.isBlank_of_mem {numeral : List Char} {number : Nat}
    (denotes : Denotes numeral number) : ∀ c ∈ numeral, isBlank c = false := by
  obtain ⟨base, digits, split, isNumeral⟩ := denotes
  have clear : ∀ c ∈ digits, isBlank c = false :=
    isNumeral.forall_mem (by decide) (by decide) split.bounds.2
  cases split with
  | hex marked => exact marked.forall_mem (by rfl) (by rfl) (by rfl) clear
  | decimal => exact clear

/-- Blanks around a numeral and underscores within it go. -/
theorem normalize_of_denotes {before spelled after : List Char} {number : Nat}
    (blank : ∀ c ∈ before ++ after, isBlank c = true)
    (denotes : Denotes (spelled.filter (· ≠ '_')) number) :
    normalize (String.ofList (before ++ spelled ++ after)) = spelled.filter (· ≠ '_') := by
  have solid : ∀ c ∈ spelled, isBlank c = false := by
    intro c member
    by_cases underscore : c = '_'
    · rw [underscore]
      decide
    · exact denotes.isBlank_of_mem c (List.mem_filter.mpr ⟨member, by simpa using underscore⟩)
  have trimmed : IsTrimmed spelled (before ++ spelled ++ after) := by
    refine ⟨before, after, rfl, blank, ?_, ?_⟩
    · exact fun c first => solid c (List.mem_of_mem_head? first)
    · exact fun c last => solid c (List.mem_of_mem_getLast? last)
  rw [normalize, String.toList_ofList, trim_of_isTrimmed trimmed]

/-- Of what stands between the blanks of a text, without underscores, the number is read if it is
below `2 ^ 64`, and refused if it is not; where no number stands, nothing is read. What is written
for an address is read as this address, whatever underscores are put into it and blanks around. -/
theorem parse_never_misreads :
    (∀ text, ∃ core numeral, IsTrimmed core text.toList ∧ numeral = core.filter (· ≠ '_') ∧
      (∀ address : Word, parse text = .ok address ↔ Denotes numeral address.toNat) ∧
      (∀ number, 2 ^ 64 ≤ number → Denotes numeral number →
        parse text = .error ⟨String.ofList numeral, .tooLarge⟩) ∧
      ((∀ number, ¬Denotes numeral number) →
        ∃ cause, parse text = .error ⟨String.ofList numeral, cause⟩)) ∧
    ∀ (address : Word) (before spelled after : List Char),
      (∀ c ∈ before ++ after, isBlank c = true) →
      IsWritten (spelled.filter (· ≠ '_')) address →
      parse (String.ofList (before ++ spelled ++ after)) = .ok address := by
  refine ⟨?_, ?_⟩
  · intro text
    refine ⟨trim text.toList, normalize text, isTrimmed_trim _, rfl, fun _ => ?_, ?_, ?_⟩
    · exact parse_eq_ok_iff_denotes
    · intro number large denotes
      rw [parse_of_denotes denotes, if_neg (Nat.not_lt.mpr large)]
    · exact exists_error_of_not_denotes
  · intro address before spelled after blank written
    have denotes := written.denotes
    rw [← normalize_of_denotes blank denotes] at denotes
    exact parse_eq_ok_iff_denotes.mpr denotes

/-- An underscore within the mark does not make the numeral decimal. -/
theorem parse_never_misreads_split_mark :
    IsWritten ("0_x1f".toList.filter (· ≠ '_')) 0x1F ∧ parse " 0_x1f\n" = .ok 0x1F := by
  have written : IsWritten ("0_x1f".toList.filter (· ≠ '_')) 0x1F :=
    .inr ⟨1, _, List.mem_cons_self, .inl (by decide)⟩
  have blank : ∀ c ∈ [' '] ++ ['\n'], isBlank c = true :=
    List.forall_mem_cons.mpr ⟨rfl, List.forall_mem_singleton.mpr rfl⟩
  exact ⟨written, parse_never_misreads.2 0x1F [' '] "0_x1f".toList ['\n'] blank written⟩

end Itanium.Address
