import Itanium.Text.Blank

/-!
# Lines of environment files

A line ends at a line break outside quotes. A comment is cut off when it stands alone on its line or
begins directly behind a single blank; any other is left to the reader of the value.
-/
namespace Itanium.Environment

/-- Where a reader is who looks for the end of a line. -/
inductive Place where
  /-- Nothing but blanks so far. -/
  | start
  | plain
  /-- Directly behind a blank. -/
  | afterBlank
  | escape
  | single
  | singleEscape
  | double
  | doubleEscape
  | comment
deriving DecidableEq

namespace Place

/-- Behind a character outside quotes. -/
def afterPlain (c : Char) : Place :=
  if c = '\\' then escape
  else if c = '"' then double
  else if c = '\'' then single
  else .plain

/-- The place behind a character. -/
def next (place : Place) (c : Char) : Place :=
  match place with
  | start => if c = '#' then comment else if Text.isBlank c then start else afterPlain c
  | .plain => if Text.isBlank c && c != '\n' && c != '\r' then afterBlank else afterPlain c
  | afterBlank => if c = '#' then comment else afterPlain c
  | escape => .plain
  | single => if c = '\\' then singleEscape else if c = '\'' then .plain else single
  | singleEscape => single
  | double => if c = '\\' then doubleEscape else if c = '"' then .plain else double
  | doubleEscape => double
  | comment => comment

/-- Whether a line break ends the line here. -/
def endsAtBreak : Place → Bool
  | single | singleEscape | double | doubleEscape => false
  | _ => true

/-- Whether the text may end here. -/
def endsAtEnd : Place → Bool
  | start | plain | comment => true
  | _ => false

end Place

/-- Puts a character in front of the first line, if that is complete. -/
def consChar (c : Char) : List (List Char) → List (List Char)
  | [] => []
  | line :: rest => (c :: line) :: rest

/-- The lines of a text from a place on. A line that the end of the text cuts off is left out. -/
def linesFrom (place : Place) : List Char → List (List Char)
  | [] => if place.endsAtEnd then [[]] else []
  | c :: rest =>
    if c = '\n' && place.endsAtBreak then [] :: linesFrom .start rest
    else
      let next := place.next c
      if next = .comment then linesFrom next rest else consChar c (linesFrom next rest)

def lines (text : List Char) : List (List Char) :=
  linesFrom .start text

end Itanium.Environment
