import Itanium.Pattern.Escape

/-!
# Pieces of patterns

What a part of the text of a pattern means, and what it costs: how deep it nests, and how large a
machine that runs through a text byte by byte would be.
-/
namespace Itanium.Pattern

open Text (CharSet)

/-- The nesting of several things side by side: more than one make a level of their own. -/
def joinDepth : List Nat → Nat
  | [] => 0
  | [depth] => depth
  | depths => depths.foldl Nat.max 0 + 1

/-- A pattern with what its text costs. -/
structure Piece where
  pattern : Pattern
  /-- How deep the text nests. -/
  depth : Nat
  /-- The bytes of the states of a machine for it. -/
  memory : Nat
  /-- Whether a repetition may follow. -/
  repeatable : Bool := true
  /-- Whether it can be decided where the pattern occurs. -/
  decidable : Bool := true

namespace Piece

/-- The size of a state, and of one more way out of it. -/
def stateSize : Nat := 32

def branchSize : Nat := 4

/-- What the machine for a set takes: characters beyond the ASCII range are read in several bytes,
and a set of them takes about thirty states. -/
def setMemory (set : CharSet) : Nat :=
  if set.isAscii then 2 * stateSize else 30 * stateSize + 10 * branchSize

def flags : Piece :=
  { pattern := .empty, depth := 0, memory := 0, repeatable := false }

def char (c : Char) : Piece :=
  { pattern := .one (.singleton c), depth := 0, memory := c.utf8Size * stateSize }

def set (set : CharSet) (depth : Nat) : Piece :=
  { pattern := .one set, depth, memory := setMemory set }

def anchor (anchor : Anchor) : Piece :=
  { pattern := .anchor anchor, depth := 0, memory := stateSize }

/-- An anchor at a word whose letters are not known. -/
def unknownAnchor : Piece :=
  { anchor .wordBoundary with decidable := false }

/-- A group that is numbered keeps where it begins and ends. -/
def group (piece : Piece) (numbered : Bool) : Piece :=
  { pattern := piece.pattern
    depth := piece.depth + 1
    memory := piece.memory + if numbered then 2 * stateSize else 0
    decidable := piece.decidable }

def totalMemory (pieces : List Piece) : Nat :=
  pieces.foldl (fun memory piece => memory + piece.memory) 0

/-- Pieces one behind the other. -/
def sequence : List Piece → Piece
  | [] => { pattern := .empty, depth := 0, memory := 0 }
  | [piece] => piece
  | first :: rest => {
    pattern := rest.foldl (fun pattern piece => .sequence pattern piece.pattern) first.pattern
    depth := joinDepth ((first :: rest).map (·.depth))
    memory := totalMemory (first :: rest)
    decidable := (first :: rest).all (·.decidable) }

/-- Pieces one of which is chosen. -/
def choice (first : Piece) : List Piece → Piece
  | [] => first
  | rest => {
    pattern := rest.foldl (fun pattern piece => .choice pattern piece.pattern) first.pattern
    depth := joinDepth ((first :: rest).map (·.depth))
    memory := totalMemory (first :: rest) + 2 * stateSize + (rest.length + 1) * branchSize
    decidable := (first :: rest).all (·.decidable) }

/-- The memory of a repetition: the piece is copied as often as it has to occur, and once more with
a branch for each time that it may. -/
def repeatedMemory (memory least : Nat) : Option Nat → Nat
  | none => Nat.max least 1 * memory + stateSize + 2 * branchSize
  | some most =>
    if most = least then least * memory
    else least * memory + stateSize +
      (most - least) * (memory + stateSize + 2 * branchSize)

/-- A piece repeated. What matches the empty text alone is not repeated more than once, and what is
not repeated at all need not be known. -/
def repeated (piece : Piece) (least : Nat) (most : Option Nat) : Piece :=
  let (least, most) :=
    if piece.pattern.isEmptyOnly then (Nat.min least 1, some (Nat.min (most.getD 1) 1))
    else (least, most)
  { pattern := if most = some 0 then .empty else .repetition piece.pattern least most
    depth := piece.depth + 1
    memory := repeatedMemory piece.memory least most
    decidable := piece.decidable || most == some 0 }

/-- A character. Its cases are known for ASCII letters only. -/
def ofChar? (flags : Flags) (c : Char) : Option Piece :=
  if !flags.ignoreCase then some (char c)
  else if !flags.ascii then none
  else if c.isAlpha then some (set (.ignoringCase (.singleton c)) 0)
  else some (char c)

def ofAtom? (flags : Flags) : Atom → Option Piece
  | .char c => ofChar? flags c
  | .set characters => some (set characters 0)
  | .anchor position => some (anchor position)
  | .unknownAnchor => some unknownAnchor

/-- Any character, the end of a line apart. Among ASCII classes it could be a part of one. -/
def dot? (flags : Flags) : Option Piece :=
  if flags.ascii then none
  else
    let breaks : CharSet :=
      if flags.dotAll then .none
      else if flags.carriageReturn then .union (.singleton '\n') (.singleton '\r')
      else .singleton '\n'
    some (set (.complement breaks) 0)

def lineStart (flags : Flags) : Anchor :=
  if !flags.multiLine then .textStart
  else if flags.carriageReturn then .returnLineStart
  else .lineStart

def lineEnd (flags : Flags) : Anchor :=
  if !flags.multiLine then .textEnd
  else if flags.carriageReturn then .returnLineEnd
  else .lineEnd

end Piece

end Itanium.Pattern
