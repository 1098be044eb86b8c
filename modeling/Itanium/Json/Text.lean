import Itanium.Json

/-!
# JSON text

The indented text of a value. Each level is indented by two spaces; an empty list or record stays on
one line.
-/
namespace Itanium

namespace Json

/-! ### Quoted text -/

/-- Quotes, backslashes and control characters are escaped; all else stands for itself. -/
def escape (c : Char) : List Char :=
  if c = '"' then ['\\', '"']
  else if c = '\\' then ['\\', '\\']
  else if c = '\x08' then ['\\', 'b']
  else if c = '\x0c' then ['\\', 'f']
  else if c = '\n' then ['\\', 'n']
  else if c = '\r' then ['\\', 'r']
  else if c = '\t' then ['\\', 't']
  else if c.toNat < 32 then
    ['\\', 'u', '0', '0', Nat.digitChar (c.toNat / 16), Nat.digitChar (c.toNat % 16)]
  else [c]

def quote (text : String) : List Char :=
  '"' :: text.toList.flatMap escape ++ ['"']

/-! ### Indented text -/

/-- Texts on lines of their own, a comma after each but the last. A line begins with a line break and
the indentation behind it. -/
def separated (newline : List Char) : List (List Char) → List Char
  | [] => []
  | [last] => newline ++ last
  | first :: rest => newline ++ first ++ ',' :: separated newline rest

/-- Puts texts between brackets, one level further in. -/
def enclose (opening closing : Char) (newline : List Char) (texts : List (List Char)) : List Char :=
  if texts.isEmpty then [opening, closing]
  else opening :: separated (newline ++ [' ', ' ']) texts ++ newline ++ [closing]

mutual

/-- The text of a value whose lines, after the first, begin with `newline`. -/
def render (newline : List Char) : Json → List Char
  | null => ['n', 'u', 'l', 'l']
  | number value => Nat.toDigits 10 value
  | text value => quote value
  | list items => enclose '[' ']' newline (renderItems (newline ++ [' ', ' ']) items)
  | record members => enclose '\x7b' '\x7d' newline (renderMembers (newline ++ [' ', ' ']) members)

def renderItems (newline : List Char) : List Json → List (List Char)
  | [] => []
  | item :: rest => render newline item :: renderItems newline rest

def renderMembers (newline : List Char) : List (String × Json) → List (List Char)
  | [] => []
  | (name, value) :: rest =>
    (quote name ++ [':', ' '] ++ render newline value) :: renderMembers newline rest

end

/-- The text of a value, without a line break at its end. -/
def print (value : Json) : String :=
  String.ofList (render ['\n'] value)

end Json

end Itanium
