import Itanium.Pattern.Flags
import Itanium.Text.Numeral

/-!
# Escapes

What a backslash and the characters behind it stand for. A class that would need the tables of
Unicode is refused, and so is what could match a part of a character.
-/
namespace Itanium.Pattern

open Text (CharSet)

inductive Atom where
  | char (c : Char)
  | set (set : CharSet)
  | anchor (anchor : Anchor)
  /-- An anchor at a word that may have letters beyond the ASCII range. -/
  | unknownAnchor
deriving DecidableEq

namespace Atom

def atWord (flags : Flags) (position : Anchor) : Atom :=
  if flags.ascii then .anchor position else .unknownAnchor

/-- What a letter stands for. -/
def letter? (flags : Flags) : Char → Option Atom
  | 'a' => some (.char '\x07')
  | 'f' => some (.char '\x0c')
  | 'n' => some (.char '\n')
  | 'r' => some (.char '\r')
  | 't' => some (.char '\t')
  | 'v' => some (.char '\x0b')
  | 'A' => some (.anchor .textStart)
  | 'z' => some (.anchor .textEnd)
  | 'd' => classOf .digit
  | 's' => classOf .space
  | 'w' => classOf .word
  | 'B' => some (atWord flags .noWordBoundary)
  | '<' => some (atWord flags .wordStart)
  | '>' => some (atWord flags .wordEnd)
  | _ => none
where
  classOf (characters : CharSet) : Option Atom :=
    if flags.ascii then some (.set characters) else none

/-- The anchor of a name in braces behind `\b`. -/
def namedAnchor? (name : List Char) : Option Anchor :=
  match String.ofList name with
  | "start" => some .wordStart
  | "end" => some .wordEnd
  | "start-half" => some .notBehindWord
  | "end-half" => some .notBeforeWord
  | _ => none

/-- The characters that stand for themselves behind a backslash. -/
def isPlainEscape (c : Char) : Bool :=
  c.toNat < 0x80 && !c.isAlphanum && c != '<' && c != '>'

def isHexDigit (c : Char) : Bool :=
  (Numeral.digitValue? 16 c).isSome

/-- Exactly so many hexadecimal digits. -/
def fixedDigits? (flags : Flags) : Nat → List Char → Option (List Char × List Char)
  | 0, text => some ([], text)
  | _ + 1, [] => none
  | count + 1, c :: rest =>
    if isHexDigit c then
      (fixedDigits? flags count (flags.skip rest)).map fun (digits, rest) => (c :: digits, rest)
    else none

/-- The character of a code point, written with so many digits or in braces. With two digits and
ASCII classes it is a byte, and then it has to be a character by itself. -/
def codePoint? (flags : Flags) (count : Nat) (text : List Char) : Option (Char × List Char) :=
  match flags.skip text with
  | '\x7b' :: rest =>
    match flags.gather isHexDigit (flags.skip rest) with
    | ([], _) => none
    | (digits, '\x7d' :: rest) => (Numeral.codePoint? digits).map (·, flags.skip rest)
    | _ => none
  | text => do
    let (digits, rest) ← fixedDigits? flags count text
    let c ← Numeral.codePoint? digits
    if count = 2 ∧ flags.ascii ∧ 0x80 ≤ c.toNat then none else some (c, rest)

/-- The boundary of a word, which may be named in braces. Braces that do not begin like a name are
left to be read as a count. -/
def boundary? (flags : Flags) (text : List Char) : Option (Anchor × List Char) :=
  let isNamePart (c : Char) := c.isAlpha || c == '-'
  match text with
  | '\x7b' :: rest =>
    match flags.gather isNamePart (flags.skip rest) with
    | ([], []) => none
    | ([], _) => some (.wordBoundary, text)
    | (name, '\x7d' :: rest) => (namedAnchor? name).map (·, rest)
    | _ => none
  | _ => some (.wordBoundary, text)

/-- What stands behind a backslash. -/
def escape? (flags : Flags) : List Char → Option (Atom × List Char)
  | [] => none
  | 'x' :: rest => (codePoint? flags 2 rest).map fun (c, rest) => (.char c, rest)
  | 'u' :: rest => (codePoint? flags 4 rest).map fun (c, rest) => (.char c, rest)
  | 'U' :: rest => (codePoint? flags 8 rest).map fun (c, rest) => (.char c, rest)
  | c :: rest =>
    if isPlainEscape c then some (.char c, rest)
    else if c = 'b' then
      (boundary? flags rest).map fun (position, rest) => (atWord flags position, rest)
    else (letter? flags c).map (·, rest)

end Atom

end Itanium.Pattern
