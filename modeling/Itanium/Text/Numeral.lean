/-!
# Numerals

Numbers written in a base and padded with zeros, and numbers read back from text. A numeral that is
read may carry one plus sign; it is refused at the first character that is no digit or that takes
the value to the limit.
-/
namespace Itanium.Numeral

/-! ### Writing -/

/-- Puts a character in front until the width is reached. -/
def padLeft (width : Nat) (pad : Char) (digits : List Char) : List Char :=
  List.replicate (width - digits.length) pad ++ digits

/-- Lower-case hexadecimal of at least `width` digits. -/
def hex (width n : Nat) : String :=
  String.ofList (padLeft width '0' (Nat.toDigits 16 n))

/-- Upper-case hexadecimal of at least `width` digits. -/
def upperHex (width n : Nat) : String :=
  String.ofList (padLeft width '0' ((Nat.toDigits 16 n).map Char.toUpper))

def decimal (n : Nat) : String :=
  String.ofList (Nat.toDigits 10 n)

/-! ### Reading -/

inductive ParseError where
  | empty
  | invalidDigit
  | tooLarge
deriving DecidableEq

def ParseError.message : ParseError → String
  | empty => "cannot parse integer from empty string"
  | invalidDigit => "invalid digit found in string"
  | tooLarge => "number too large to fit in target type"

/-- The value of a digit in either case, for bases up to 16. -/
def digitValue? (base : Nat) (c : Char) : Option Nat :=
  let value? :=
    if '0' ≤ c ∧ c ≤ '9' then some (c.toNat - '0'.toNat)
    else if 'a' ≤ c ∧ c ≤ 'f' then some (c.toNat - 'a'.toNat + 10)
    else if 'A' ≤ c ∧ c ≤ 'F' then some (c.toNat - 'A'.toNat + 10)
    else none
  value?.filter (· < base)

/-- Reads digits behind a value that is already read. -/
def accumulate (base limit : Nat) (value : Nat) : List Char → Except ParseError Nat
  | [] => .ok value
  | c :: rest =>
    match digitValue? base c with
    | none => .error .invalidDigit
    | some digit =>
      let next := value * base + digit
      if limit ≤ next then .error .tooLarge else accumulate base limit next rest

/-- Reads a number below the limit. -/
def parse (base limit : Nat) : List Char → Except ParseError Nat
  | [] => .error .empty
  | ['+'] => .error .invalidDigit
  | '+' :: digits => accumulate base limit 0 digits
  | digits => accumulate base limit 0 digits

/-- The character of a code point in hexadecimal. -/
def codePoint? (digits : List Char) : Option Char :=
  match digits.mapM (digitValue? 16) with
  | some values =>
    let n := values.foldl (fun n digit => n * 16 + digit) 0
    if n.isValidChar then some (Char.ofNat n) else none
  | none => none

end Itanium.Numeral
