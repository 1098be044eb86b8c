import Itanium.Pattern.Piece

/-!
# Bracketed classes

A set of characters in brackets: characters, ranges, named sets and brackets again, negated or not,
and joined by operators, which take their sides from left to right.
-/
namespace Itanium.Pattern

open Text (CharSet)

namespace Bracket

/-- A set, and how deep its text nests. -/
structure Part where
  set : CharSet
  depth : Nat
deriving DecidableEq

inductive Operator where
  | intersection
  | difference
  | symmetricDifference
deriving DecidableEq

def Operator.apply : Operator → CharSet → CharSet → CharSet
  | intersection => .intersection
  | difference => .difference
  | symmetricDifference => .symmetricDifference

inductive Token where
  /-- An opening bracket, with the hyphens or the closing bracket that stand for themselves. -/
  | opening (negated : Bool) (parts : List Part)
  | closing
  | operator (operator : Operator)
  | part (part : Part)

/-! ### Tokens -/

/-- A set under flags. Among ASCII classes there is no other character, and letters have another
case there alone. -/
def adapt? (flags : Flags) (set : CharSet) : Option Part :=
  if flags.ascii then
    if set.isAscii then some ⟨if flags.ignoreCase then .ignoringCase set else set, 0⟩ else none
  else if flags.ignoreCase then none
  else some ⟨set, 0⟩

/-- A set may be negated, unless it is one of ASCII characters only. -/
def negate? (flags : Flags) (negated : Bool) (set : CharSet) : Option CharSet :=
  if !negated then some set else if flags.ascii then none else some (.complement set)

/-- The name of a set between colons, and the bracket behind it. -/
def namedSet? (text : List Char) : Option (Bool × CharSet × List Char) :=
  let (negated, text) := match text with
    | '^' :: rest => (true, rest)
    | other => (false, other)
  match text.dropWhile (· ≠ ':') with
  | ':' :: ']' :: rest =>
    (CharSet.ofName? (String.ofList (text.takeWhile (· ≠ ':')))).map (negated, ·, rest)
  | _ => none

/-- An opening bracket, from behind it. -/
def opening? (flags : Flags) (text : List Char) : Option (Token × List Char) := do
  let (negated, text) := match flags.skip text with
    | '^' :: rest => (true, flags.skip rest)
    | other => (false, other)
  match flags.gather (· == '-') text with
  | ([], ']' :: rest) =>
    let part ← adapt? flags (.singleton ']')
    return (.opening negated [part], flags.skip rest)
  | (hyphens, rest) =>
    let parts ← hyphens.mapM fun c => adapt? flags (.singleton c)
    return (.opening negated parts, rest)

/-- One character or escape. -/
def atom? (flags : Flags) : List Char → Option (Atom × List Char)
  | [] => none
  | '\\' :: rest => Atom.escape? flags rest
  | c :: rest => some (.char c, rest)

/-- The first character behind a hyphen. Only one sign of a comment is passed over. -/
def behindHyphen? (flags : Flags) (text : List Char) : Option Char :=
  if flags.spaced then
    match text.dropWhile Text.isBlank with
    | '#' :: rest => (rest.dropWhile Text.isBlank).head?
    | other => other.head?
  else text.head?

/-- A range, or the one character or class that stands here. -/
def range? (flags : Flags) (text : List Char) : Option (Token × List Char) := do
  let (first, rest) ← atom? flags text
  let single (rest : List Char) : Option (Token × List Char) := do
    let set ← match first with
      | .char c => some (.singleton c)
      | .set set => some set
      | _ => none
    return (.part (← adapt? flags set), rest)
  match flags.skip rest with
  | '-' :: behind =>
    if behindHyphen? flags behind = some ']' ∨ behindHyphen? flags behind = some '-' then
      single ('-' :: behind)
    else do
      let (last, rest) ← atom? flags (flags.skip behind)
      match first, last with
      | .char first, .char last =>
        if first ≤ last then return (.part (← adapt? flags (.range first last)), rest) else none
      | _, _ => none
  | rest => single rest

def token? (flags : Flags) (nested : Bool) (text : List Char) : Option (Token × List Char) :=
  match text with
  | [] => none
  | ']' :: rest => some (.closing, rest)
  | '&' :: '&' :: rest => some (.operator .intersection, rest)
  | '-' :: '-' :: rest => some (.operator .difference, rest)
  | '~' :: '~' :: rest => some (.operator .symmetricDifference, rest)
  | '[' :: ':' :: rest =>
    match if nested then namedSet? rest else none with
    | some (negated, set, rest) => do
      let part ← adapt? flags set
      return (.part { part with set := ← negate? flags negated part.set }, rest)
    | none => opening? flags (':' :: rest)
  | '[' :: rest => opening? flags rest
  | text => range? flags text

/-! ### Nesting -/

/-- An open bracket: what it holds since its last operator, and the operator with its left side. -/
structure Frame where
  negated : Bool
  left : Option (Operator × Part)
  parts : List Part

namespace Frame

/-- All that stands between the bracket and here. -/
def content (frame : Frame) : Part :=
  let right : Part :=
    ⟨CharSet.unions (frame.parts.map (·.set)), joinDepth (frame.parts.map (·.depth))⟩
  match frame.left with
  | none => right
  | some (operator, left) =>
    ⟨operator.apply left.set right.set, Nat.max left.depth right.depth + 1⟩

def close? (frame : Frame) (flags : Flags) : Option Part := do
  let content := frame.content
  return ⟨← negate? flags frame.negated content.set, content.depth + 1⟩

end Frame

/-- The rest of a class whose open brackets are given, the innermost one first. Every token takes at
least one character. -/
def readFrom? (flags : Flags) (frames : List Frame) (text : List Char) :
    Option (Part × List Char) :=
  match token? flags (!frames.isEmpty) (flags.skip text) with
  | none => none
  | some (token, rest) =>
    if rest.length < text.length then
      match token, frames with
      | .opening negated parts, frames => readFrom? flags (⟨negated, none, parts⟩ :: frames) rest
      | .closing, [frame] => (frame.close? flags).map (·, rest)
      | .closing, frame :: outer :: frames =>
        match frame.close? flags with
        | some part =>
          readFrom? flags ({ outer with parts := outer.parts ++ [part] } :: frames) rest
        | none => none
      | .operator operator, frame :: frames =>
        readFrom? flags ({ frame with left := some (operator, frame.content), parts := [] } ::
          frames) rest
      | .part part, frame :: frames =>
        readFrom? flags ({ frame with parts := frame.parts ++ [part] } :: frames) rest
      | _, [] => none
    else none
termination_by text.length

end Bracket

/-- A bracketed class at the start of a text. -/
def Bracket.read? (flags : Flags) (text : List Char) : Option (Bracket.Part × List Char) :=
  Bracket.readFrom? flags [] text

end Itanium.Pattern
