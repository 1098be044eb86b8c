import Itanium.Pattern
import Itanium.Text.Blank

/-!
# Flags

What changes the meaning of the text of a pattern: flags are set by letters, for the rest of a group
or for a group of its own.
-/
namespace Itanium.Pattern

structure Flags where
  ignoreCase : Bool := false
  /-- Lines have starts and ends of their own. -/
  multiLine : Bool := false
  /-- A dot also stands for a line break. -/
  dotAll : Bool := false
  /-- A carriage return ends a line too. -/
  carriageReturn : Bool := false
  /-- Classes and words are those of the ASCII range. -/
  ascii : Bool := false
  /-- Blanks and comments in a pattern mean nothing. -/
  spaced : Bool := false
deriving DecidableEq

namespace Flags

/-- Sets the flag of a letter. Which of several repetitions is preferred changes no occurrence. -/
def set? (flags : Flags) (value : Bool) : Char → Option Flags
  | 'i' => some { flags with ignoreCase := value }
  | 'm' => some { flags with multiLine := value }
  | 's' => some { flags with dotAll := value }
  | 'R' => some { flags with carriageReturn := value }
  | 'u' => some { flags with ascii := !value }
  | 'x' => some { flags with spaced := value }
  | 'U' => some flags
  | _ => none

/-- Sets the flags of letters; those behind a minus sign are unset. -/
def setAll? (flags : Flags) (value : Bool) : List Char → Option Flags
  | [] => some flags
  | '-' :: rest => flags.setAll? false rest
  | c :: rest => (flags.set? value c).bind (·.setAll? value rest)

/-- Flags changed by letters. None is written twice, and the minus sign is not the last. -/
def change? (flags : Flags) (letters : List Char) : Option Flags :=
  if letters.eraseDups = letters ∧ letters.getLast? ≠ some '-' then flags.setAll? true letters
  else none

/-! ### Blanks -/

/-- Leaves out blanks and comments, a comment reaching to the end of its line. -/
def skipSpaces (inComment : Bool) : List Char → List Char
  | [] => []
  | c :: rest =>
    if inComment then skipSpaces (c != '\n') rest
    else if c = '#' then skipSpaces true rest
    else if Text.isBlank c then skipSpaces false rest
    else c :: rest

/-- The text from the first character that means something. -/
def skip (flags : Flags) (text : List Char) : List Char :=
  if flags.spaced then skipSpaces false text else text

theorem length_skipSpaces_le (inComment : Bool) (text : List Char) :
    (skipSpaces inComment text).length ≤ text.length := by
  induction text generalizing inComment with
  | nil => simp [skipSpaces]
  | cons c rest ih =>
    rw [skipSpaces]
    split
    · exact Nat.le_succ_of_le (ih _)
    · split
      · exact Nat.le_succ_of_le (ih _)
      · split
        · exact Nat.le_succ_of_le (ih _)
        · exact Nat.le_refl _

theorem length_skip_le (flags : Flags) (text : List Char) :
    (flags.skip text).length ≤ text.length := by
  rw [skip]
  split
  · exact length_skipSpaces_le false text
  · exact Nat.le_refl _

/-- The characters of a kind at the start of a text, and what follows them. -/
def gather (flags : Flags) (isKind : Char → Bool) (text : List Char) : List Char × List Char :=
  match text with
  | [] => ([], [])
  | c :: rest =>
    if isKind c then
      let (more, behind) := flags.gather isKind (flags.skip rest)
      (c :: more, behind)
    else ([], c :: rest)
termination_by text.length
decreasing_by exact Nat.lt_succ_of_le (flags.length_skip_le rest)

end Flags

end Itanium.Pattern
