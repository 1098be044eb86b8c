import Itanium.Text.CharSet

/-!
# Patterns

Regular expressions, and where they occur in a text. A text of `n` characters has `n + 1` positions,
between its characters and at both ends. The occurrences of a pattern that begin in a set of
positions end in a set of positions, so a pattern is a step from set to set, and is matched without
a way back.
-/
namespace Itanium

open Text (CharSet)

/-- What a pattern can ask of a position: it depends on the characters at both sides alone. -/
inductive Anchor where
  | textStart
  | textEnd
  | lineStart
  | lineEnd
  /-- Lines may also end in a carriage return, with or without a line feed. -/
  | returnLineStart
  | returnLineEnd
  | wordBoundary
  | noWordBoundary
  | wordStart
  | wordEnd
  | notBehindWord
  | notBeforeWord
deriving DecidableEq

namespace Anchor

/-- Whether there is a character, and it belongs to an ASCII word. -/
def isWord (c : Option Char) : Bool :=
  c.any Text.CharSet.word.contains

/-- Whether the anchor holds between two characters; at an end of the text there is none. -/
def holds (anchor : Anchor) (before after : Option Char) : Bool :=
  match anchor with
  | textStart => before.isNone
  | textEnd => after.isNone
  | lineStart => before.isNone || before == some '\n'
  | lineEnd => after.isNone || after == some '\n'
  | returnLineStart =>
    before.isNone || before == some '\n' || (before == some '\r' && after != some '\n')
  | returnLineEnd =>
    after.isNone || after == some '\r' || (after == some '\n' && before != some '\r')
  | wordBoundary => isWord before != isWord after
  | noWordBoundary => isWord before == isWord after
  | wordStart => !isWord before && isWord after
  | wordEnd => isWord before && !isWord after
  | notBehindWord => !isWord before
  | notBeforeWord => !isWord after

end Anchor

inductive Pattern where
  | empty
  /-- One character of a set. -/
  | one (set : CharSet)
  | anchor (anchor : Anchor)
  | sequence (first second : Pattern)
  | choice (left right : Pattern)
  /-- So many times in a row; without `most` there is no limit. -/
  | repetition (body : Pattern) (least : Nat) (most : Option Nat)
deriving DecidableEq

namespace Pattern

/-- A pattern that can only match the empty text. -/
def isEmptyOnly : Pattern → Bool
  | empty => true
  | one _ => false
  | anchor _ => true
  | sequence first second => first.isEmptyOnly && second.isEmptyOnly
  | choice left right => left.isEmptyOnly && right.isEmptyOnly
  | repetition body _ most => body.isEmptyOnly || most == some 0

/-! ### Sets of positions

A set is marked by a list that says of each position whether it is a member. -/

/-- The positions that belong to one of two sets. -/
def either (left right : List Bool) : List Bool :=
  left.zipWith (· || ·) right

/-- The positions behind the characters of a set that stand at positions of a set. -/
def behind (characters : CharSet) (text : List Char) (marks : List Bool) : List Bool :=
  false :: marks.zipWith (fun mark c => mark && characters.contains c) text

/-- The positions of a set where an anchor holds. -/
def anchored (anchor : Anchor) (before : Option Char) : List Char → List Bool → List Bool
  | c :: text, mark :: marks =>
    (mark && anchor.holds before (some c)) :: anchored anchor (some c) text marks
  | [], mark :: _ => [mark && anchor.holds before none]
  | _, [] => []

/-! ### Steps

A step takes the positions where something begins to those where it ends. -/

/-- Repeats a step, as long as there is a position left. -/
def iterate (step : List Bool → List Bool) : Nat → List Bool → List Bool
  | 0, marks => marks
  | count + 1, marks => if marks.contains true then iterate step count (step marks) else marks

/-- Repeats a step up to a number of times, and keeps what was reached on the way. -/
def spread (step : List Bool → List Bool) : Nat → List Bool → List Bool
  | 0, marks => marks
  | count + 1, marks =>
    let next := either marks (step marks)
    if next = marks then marks else spread step count next

/-- What one step or more reach from a set that contains what is known of the answer. Every round
but the last finds a position, so there need not be more rounds than positions. -/
def closure (step : List Bool → List Bool) : Nat → List Bool → List Bool
  | 0, marks => step marks
  | count + 1, marks =>
    let found := step marks
    let next := either marks found
    if next = marks then found else closure step count next

/-- Where the occurrences that begin in a set of positions end. A row of more repetitions than there
are positions reaches no more than a row of as many, because one of them stays where it is. -/
def reach (text : List Char) : Pattern → List Bool → List Bool
  | empty, marks => marks
  | one characters, marks => behind characters text marks
  | anchor condition, marks => anchored condition none text marks
  | sequence first second, marks => reach text second (reach text first marks)
  | choice left right, marks => either (reach text left marks) (reach text right marks)
  | repetition body least most, marks =>
    let step := reach text body
    let limit := text.length + 1
    match least, most with
    | least, some most =>
      spread step (Nat.min (most - least) limit) (iterate step (Nat.min least limit) marks)
    | 0, none => either marks (closure step limit marks)
    | least + 1, none => closure step limit (iterate step (Nat.min least limit) marks)

/-- Whether the pattern occurs anywhere in a text. -/
def occursIn (pattern : Pattern) (text : List Char) : Bool :=
  (reach text pattern (List.replicate (text.length + 1) true)).contains true

end Pattern

end Itanium
