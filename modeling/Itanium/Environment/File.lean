import Itanium.Environment.Line
import Itanium.Environment.Value

/-!
# Environment files

Variables of the environment written in a file, one `NAME=value` on a line. They never replace a
variable that is set. Reading ends at the first line that is none, or that is not valid UTF-8, and
keeps what came before.
-/
namespace Itanium.Environment

def isNameStart (c : Char) : Bool :=
  c.isAlpha || c == '_'

def isNamePart (c : Char) : Bool :=
  c.isAlphanum || c == '_' || c == '.'

/-- A name, and the text behind it and the blanks that follow. -/
def name? (text : List Char) : Option (List Char × List Char) :=
  match text with
  | [] => none
  | c :: _ =>
    if isNameStart c then
      some (text.takeWhile isNamePart, (text.dropWhile isNamePart).dropWhile Text.isBlank)
    else none

/-- The text behind an equals sign and the blanks that follow. -/
def afterEquals? : List Char → Option (List Char)
  | '=' :: rest => some (rest.dropWhile Text.isBlank)
  | _ => none

def binding? (line : List Char) : Option (List Char × List Char) := do
  let (name, rest) ← name? line
  let value ← afterEquals? rest
  return (name, value)

/-- A name and the text of its value. The word `export` may stand in front. -/
def exportedBinding? (line : List Char) : Option (List Char × List Char) :=
  match binding? line, name? line with
  | some binding, _ => some binding
  | none, some (word, rest) => if word = "export".toList then binding? rest else none
  | none, none => none

def assignment? (environment : Environment) (line : List Char) :
    Option (String × String) := do
  let (name, text) ← exportedBinding? line
  let value ←
    if text.isEmpty || text.head? == some '#' then some []
    else value? environment (.text .plain) text
  return (String.ofList name, String.ofList value)

/-- No variable can hold the character NUL. -/
def canHold (value : String) : Bool :=
  !value.toList.contains '\x00'

/-- Sets the variables of lines, up to the first line that cannot be read. There is no environment
if a variable that is not set yet would have to hold what none can. -/
def defineLines (environment : Environment) : List (List Char) → Option Environment
  | [] => some environment
  | line :: rest =>
    let line := Text.trim line
    if line.isEmpty || line.head? == some '#' then defineLines environment rest
    else match assignment? environment line with
      | some (name, value) =>
        if (environment name).isSome || canHold value then
          defineLines (environment.define name value) rest
        else none
      | none => some environment

/-! ### Bytes -/

/-- The lines of a file, each with its line break. -/
def byteLines : List UInt8 → List (List UInt8)
  | [] => []
  | byte :: rest =>
    if byte = 0x0A then [byte] :: byteLines rest
    else match byteLines rest with
      | [] => [[byte]]
      | line :: others => (byte :: line) :: others

/-- The text of the lines before the first that is not valid UTF-8. -/
def readableText : List (List UInt8) → List Char
  | [] => []
  | line :: rest =>
    match String.fromUTF8? ⟨line.toArray⟩ with
    | some text => text.toList ++ readableText rest
    | none => []

/-- The text of a file, as far as it is read. A byte order mark at its start is ignored. -/
def fileText (content : ByteArray) : List Char :=
  match readableText (byteLines content.data.toList) with
  | '\uFEFF' :: rest => rest
  | other => other

/-- Adds the variables of a file. -/
def defineFile (environment : Environment) (content : ByteArray) : Option Environment :=
  defineLines environment (lines (fileText content))

end Itanium.Environment
