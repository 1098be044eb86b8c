import Itanium.Pattern.Bracket
import Itanium.Text.Alphanumeric

/-!
# Reading patterns

The text of a pattern is read from left to right, with a frame for each open group. A pattern is
refused if its text makes no sense, asks for words beyond the ASCII range, nests too deep or
describes a machine that is too large.
-/
namespace Itanium.Pattern

/-! ### Repetitions -/

/-- A number below the limit of its type, with blanks around it. -/
def number? (flags : Flags) (text : List Char) : Option (Nat × List Char) :=
  let (digits, rest) := flags.gather Char.isDigit (text.dropWhile Text.isBlank)
  match Numeral.parse 10 (1 <<< 32) digits with
  | .ok value => some (value, rest.dropWhile Text.isBlank)
  | .error _ => none

/-- The count of a repetition, from behind the opening brace. -/
def count? (flags : Flags) (text : List Char) : Option (Nat × Option Nat × List Char) := do
  let (least, rest) ← number? flags (flags.skip text)
  match rest with
  | '\x7d' :: rest => return (least, some least, flags.skip rest)
  | ',' :: rest =>
    match flags.skip rest with
    | '\x7d' :: rest => return (least, none, flags.skip rest)
    | rest =>
      match ← number? flags rest with
      | (most, '\x7d' :: rest) =>
        if least ≤ most then return (least, some most, flags.skip rest) else none
      | _ => none
  | _ => none

/-- A repetition that prefers few occurrences to many finds the same texts. -/
def afterPreference : List Char → List Char
  | '?' :: rest => rest
  | text => text

def repetition? (flags : Flags) : List Char → Option (Nat × Option Nat × List Char)
  | '?' :: rest => some (0, some 1, afterPreference rest)
  | '*' :: rest => some (0, none, afterPreference rest)
  | '+' :: rest => some (1, none, afterPreference rest)
  | '\x7b' :: rest => (count? flags rest).map fun (least, most, rest) =>
    (least, most, afterPreference rest)
  | _ => none

/-! ### Groups -/

/-- What an opening parenthesis begins. -/
inductive Opening where
  /-- Flags for the rest of the group around it. -/
  | flags (flags : Flags)
  | group (flags : Flags) (numbered : Bool) (name : Option (List Char))

def isGroupName : List Char → Bool
  | [] => false
  | first :: rest =>
    (first == '_' || Text.isAlphabetic first) && rest.all fun c =>
      c == '_' || c == '.' || c == '[' || c == ']' || Text.isAlphanumeric c

def groupName? (flags : Flags) (text : List Char) : Option (Opening × List Char) :=
  let name := text.takeWhile (· ≠ '>')
  match text.dropWhile (· ≠ '>') with
  | '>' :: rest => if isGroupName name then some (.group flags true name, rest) else none
  | _ => none

/-- Flags up to a colon, behind which the group begins, or up to its end. -/
def flagGroup? (flags : Flags) (text : List Char) : Option (Opening × List Char) :=
  let isEnd (c : Char) := c == ':' || c == ')'
  let letters := text.takeWhile (!isEnd ·)
  match text.dropWhile (!isEnd ·), flags.change? letters with
  | ':' :: rest, some flags => some (.group flags false none, rest)
  | ')' :: rest, some flags => if letters.isEmpty then none else some (.flags flags, rest)
  | _, _ => none

/-- A group, from behind the parenthesis. What looks ahead or back is refused. -/
def opening? (flags : Flags) (text : List Char) : Option (Opening × List Char) :=
  match flags.skip text with
  | '?' :: '=' :: _ => none
  | '?' :: '!' :: _ => none
  | '?' :: '<' :: '=' :: _ => none
  | '?' :: '<' :: '!' :: _ => none
  | '?' :: 'P' :: '<' :: rest => groupName? flags rest
  | '?' :: '<' :: rest => groupName? flags rest
  | '?' :: rest => flagGroup? flags rest
  | text => some (.group flags true none, text)

/-! ### The reader -/

/-- An open group: what goes on behind it, and what it holds, the latest first. -/
structure Frame where
  /-- The flags around the group. -/
  outer : Flags
  numbered : Bool
  branches : List Piece
  pieces : List Piece

namespace Frame

def opened (outer : Flags) (numbered : Bool) : Frame :=
  { outer, numbered, branches := [], pieces := [] }

def push (frame : Frame) (piece : Piece) : Frame :=
  { frame with pieces := piece :: frame.pieces }

/-- Begins the next of the texts to choose from. -/
def branch (frame : Frame) : Frame :=
  { frame with branches := .sequence frame.pieces.reverse :: frame.branches, pieces := [] }

def content (frame : Frame) : Piece :=
  match frame.branch.branches.reverse with
  | [] => .sequence []
  | first :: rest => .choice first rest

end Frame

structure Reader where
  flags : Flags
  /-- The names of groups so far. -/
  names : List (List Char)
  frame : Frame
  /-- The frames around it, the innermost first. -/
  outer : List Frame

namespace Reader

def start : Reader :=
  { flags := {}, names := [], frame := .opened {} false, outer := [] }

def push (reader : Reader) (piece : Piece) : Reader :=
  { reader with frame := reader.frame.push piece }

def enter? (reader : Reader) : Opening → Option Reader
  | .flags flags => some { reader.push .flags with flags }
  | .group flags numbered name =>
    if reader.names.any (some · = name) then none
    else some {
      flags
      names := name.toList ++ reader.names
      frame := .opened reader.flags numbered
      outer := reader.frame :: reader.outer }

def leave? (reader : Reader) : Option Reader :=
  match reader.outer with
  | [] => none
  | frame :: outer => some {
    reader with
    flags := reader.frame.outer
    frame := frame.push (reader.frame.content.group reader.frame.numbered)
    outer }

/-- Repeats the latest piece. -/
def repeat? (reader : Reader) (least : Nat) (most : Option Nat) : Option Reader :=
  match reader.frame.pieces with
  | piece :: pieces =>
    if piece.repeatable then
      let frame := { reader.frame with pieces }
      some { reader with frame := frame.push (piece.repeated least most) }
    else none
  | [] => none

/-- Reads what stands at the start of a text that is not empty. -/
def step? (reader : Reader) (text : List Char) : Option (Reader × List Char) :=
  let put (piece : Option Piece) (rest : List Char) := piece.map (reader.push ·, rest)
  match text with
  | [] => none
  | '(' :: rest => do
    let (opening, rest) ← opening? reader.flags rest
    return (← reader.enter? opening, rest)
  | ')' :: rest => reader.leave?.map (·, rest)
  | '|' :: rest => some ({ reader with frame := reader.frame.branch }, rest)
  | '[' :: _ => do
    let (part, rest) ← Bracket.read? reader.flags text
    put (some (.set part.set part.depth)) rest
  | '\\' :: rest => do
    let (atom, rest) ← Atom.escape? reader.flags rest
    put (Piece.ofAtom? reader.flags atom) rest
  | '.' :: rest => put (Piece.dot? reader.flags) rest
  | '^' :: rest => put (some (.anchor (Piece.lineStart reader.flags))) rest
  | '$' :: rest => put (some (.anchor (Piece.lineEnd reader.flags))) rest
  | c :: rest =>
    if c = '?' ∨ c = '*' ∨ c = '+' ∨ c = '\x7b' then do
      let (least, most, rest) ← repetition? reader.flags text
      return (← reader.repeat? least most, rest)
    else put (Piece.ofChar? reader.flags c) rest

/-- The whole pattern, if no group is open. -/
def finish? (reader : Reader) : Option Piece :=
  if reader.outer.isEmpty then some reader.frame.content else none

/-- Reads a text to its end. Every step takes at least one character. -/
def read? (reader : Reader) (text : List Char) : Option Piece :=
  match reader.flags.skip text with
  | [] => reader.finish?
  | c :: rest =>
    match reader.step? (c :: rest) with
    | none => none
    | some (reader, rest) => if rest.length < text.length then reader.read? rest else none
termination_by text.length

end Reader

/-- How deep a pattern may nest. -/
def depthLimit : Nat := 250

/-- The memory that the machine for a pattern may take. -/
def memoryLimit : Nat := 10 * 1024 * 1024

/-- The pattern of a text. -/
def parse? (text : List Char) : Option Pattern :=
  match Reader.start.read? text with
  | some piece =>
    if piece.decidable ∧ piece.depth ≤ depthLimit ∧ piece.memory ≤ memoryLimit then
      some piece.pattern
    else none
  | none => none

end Itanium.Pattern
