import Itanium.Text.Numeral

/-!
# Settings documents

The text of a settings file: lines `key = value`, with comments after `#`. A key is bare or quoted;
a value is a truth value or a string in one of four quotations. A settings file needs no other
values and no tables, so nothing else is read: a document that holds any is refused as a whole.
-/
namespace Itanium.Settings

inductive Value where
  | truth (value : Bool)
  | text (value : String)
deriving DecidableEq

structure Entry where
  key : String
  value : Value
deriving DecidableEq

namespace Document

/-! ### Characters -/

def isGap (c : Char) : Bool :=
  c == ' ' || c == '\t'

/-- The control characters, the tab apart. -/
def isControl (c : Char) : Bool :=
  (c.toNat < 0x20 && c != '\t') || c.toNat == 0x7F

def isBareKey (c : Char) : Bool :=
  c.isAlphanum || c == '_' || c == '-'

def skipGap (text : List Char) : List Char :=
  text.dropWhile isGap

/-- What follows the end of a line, if the text is at one. -/
def lineBreak? : List Char → Option (List Char)
  | '\n' :: rest => some rest
  | '\r' :: '\n' :: rest => some rest
  | _ => none

/-- What follows the line, if it holds only a gap and a comment. -/
def endLine? (text : List Char) : Option (List Char) :=
  let text := match skipGap text with
    | '#' :: comment => comment.dropWhile (!isControl ·)
    | other => other
  if text.isEmpty then some [] else lineBreak? text

/-- The character that a letter after a backslash stands for. -/
def escaped? : Char → Option Char
  | 'b' => some '\x08'
  | 't' => some '\t'
  | 'n' => some '\n'
  | 'f' => some '\x0c'
  | 'e' => some '\x1b'
  | 'r' => some '\r'
  | '"' => some '"'
  | '\\' => some '\\'
  | _ => none

/-! ### Strings

Each reader starts behind the opening quotes and returns the content and what follows the closing
ones. -/

/-- Puts a character in front of the content that has been read. -/
def push (c : Char) (read : Option (List Char × List Char)) : Option (List Char × List Char) :=
  read.map fun (content, rest) => (c :: content, rest)

/-- A string in single quotes, without escapes. -/
def literal : List Char → Option (List Char × List Char)
  | [] => none
  | '\'' :: rest => some ([], rest)
  | c :: rest => if isControl c then none else push c (literal rest)

/-- A string in double quotes, with escapes. -/
def basic : List Char → Option (List Char × List Char)
  | [] => none
  | '"' :: rest => some ([], rest)
  | '\\' :: 'x' :: a :: b :: rest =>
    (Numeral.codePoint? [a, b]).bind fun point => push point (basic rest)
  | '\\' :: 'u' :: a :: b :: c :: d :: rest =>
    (Numeral.codePoint? [a, b, c, d]).bind fun point => push point (basic rest)
  | '\\' :: 'U' :: a :: b :: c :: d :: e :: f :: g :: h :: rest =>
    (Numeral.codePoint? [a, b, c, d, e, f, g, h]).bind fun point => push point (basic rest)
  | '\\' :: c :: rest => (escaped? c).bind fun point => push point (basic rest)
  | c :: rest => if isControl c then none else push c (basic rest)

/-- A carriage return may stand in a string of several lines only before a line feed. -/
def isLoneReturn (c : Char) (rest : List Char) : Bool :=
  c == '\r' && rest.head? != some '\n'

/-- A string in three single quotes. Up to two more quotes at its end belong to the content. -/
def literalLines : List Char → Option (List Char × List Char)
  | [] => none
  | '\'' :: '\'' :: '\'' :: '\'' :: '\'' :: rest => some (['\'', '\''], rest)
  | '\'' :: '\'' :: '\'' :: '\'' :: rest => some (['\''], rest)
  | '\'' :: '\'' :: '\'' :: rest => some ([], rest)
  | c :: rest =>
    if (isControl c && c != '\n' && c != '\r') || isLoneReturn c rest then none
    else push c (literalLines rest)

/-- A string in three double quotes. A backslash at the end of a line removes the line break with
the gaps and line breaks after it; `folding` holds while they are being removed. -/
def basicLines (folding : Bool) : List Char → Option (List Char × List Char)
  | [] => none
  | '"' :: '"' :: '"' :: '"' :: '"' :: rest => some (['"', '"'], rest)
  | '"' :: '"' :: '"' :: '"' :: rest => some (['"'], rest)
  | '"' :: '"' :: '"' :: rest => some ([], rest)
  | '\\' :: 'x' :: a :: b :: rest =>
    (Numeral.codePoint? [a, b]).bind fun point => push point (basicLines false rest)
  | '\\' :: 'u' :: a :: b :: c :: d :: rest =>
    (Numeral.codePoint? [a, b, c, d]).bind fun point => push point (basicLines false rest)
  | '\\' :: 'U' :: a :: b :: c :: d :: e :: f :: g :: h :: rest =>
    (Numeral.codePoint? [a, b, c, d, e, f, g, h]).bind fun point =>
      push point (basicLines false rest)
  | '\\' :: c :: rest =>
    if (lineBreak? (skipGap (c :: rest))).isSome then basicLines true (c :: rest)
    else (escaped? c).bind fun point => push point (basicLines false rest)
  | c :: rest =>
    if (isControl c && c != '\n' && c != '\r') || isLoneReturn c rest then none
    else if folding && (isGap c || c == '\n' || c == '\r') then basicLines true rest
    else push c (basicLines false rest)

/-- The line break directly behind three opening quotes does not belong to the content. -/
def skipFirstBreak (text : List Char) : List Char :=
  (lineBreak? text).getD text

/-! ### Entries -/

def key : List Char → Option (List Char × List Char)
  | '"' :: rest => basic rest
  | '\'' :: rest => literal rest
  | text =>
    let name := text.takeWhile isBareKey
    if name.isEmpty then none else some (name, text.dropWhile isBareKey)

def text (read : Option (List Char × List Char)) : Option (Value × List Char) :=
  read.map fun (content, rest) => (.text (String.ofList content), rest)

def value : List Char → Option (Value × List Char)
  | '"' :: '"' :: '"' :: rest => text (basicLines false (skipFirstBreak rest))
  | '"' :: rest => text (basic rest)
  | '\'' :: '\'' :: '\'' :: rest => text (literalLines (skipFirstBreak rest))
  | '\'' :: rest => text (literal rest)
  | 't' :: 'r' :: 'u' :: 'e' :: rest => some (.truth true, rest)
  | 'f' :: 'a' :: 'l' :: 's' :: 'e' :: rest => some (.truth false, rest)
  | _ => none

/-- An entry with the rest of its line, and what follows the line. -/
def entry (line : List Char) : Option (Entry × List Char) := do
  let (name, rest) ← key line
  match skipGap rest with
  | '=' :: rest =>
    let (value, rest) ← value (skipGap rest)
    let rest ← endLine? rest
    return (⟨String.ofList name, value⟩, rest)
  | _ => none

/-- Reads the lines of a text; each takes at least one character, which the bound counts. -/
def entriesWithin : Nat → List Char → Option (List Entry)
  | _, [] => some []
  | 0, _ :: _ => none
  | bound + 1, line =>
    match endLine? line with
    | some rest => entriesWithin bound rest
    | none => do
      let (first, rest) ← entry (skipGap line)
      let others ← entriesWithin bound rest
      return first :: others

/-- The entries of a document, in order. A byte order mark at its start is ignored. -/
def entries? (document : String) : Option (List Entry) :=
  let text := match document.toList with
    | '\uFEFF' :: rest => rest
    | other => other
  entriesWithin text.length text

end Document

end Itanium.Settings
