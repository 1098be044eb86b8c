import Itanium.Environment
import Itanium.Text.Alphanumeric

/-!
# Values in environment files

A value may be quoted, in part or as a whole, and may refer to other variables as `$NAME` or
`${NAME}` outside single quotes. Outside quotes it ends at a blank, behind which only a comment may
stand.
-/
namespace Itanium.Environment

inductive Quotation where
  | plain
  | single
  | double
deriving DecidableEq

/-- What a reader of a value is inside of. -/
inductive Context where
  | text (quotation : Quotation)
  /-- A name behind a dollar sign, as far as it is read. -/
  | reference (quotation : Quotation) (name : List Char)
  /-- The same in braces. -/
  | braced (quotation : Quotation) (name : List Char)

/-- After a value there may be blanks and a comment. -/
def endsValue (text : List Char) : Bool :=
  match text.dropWhile fun c => c == ' ' || c == '\t' with
  | [] => true
  | c :: _ => c == '#'

/-- What a character behind a backslash stands for. -/
def escaped? : Char → Option Char
  | 'n' => some '\n'
  | '\\' => some '\\'
  | '\'' => some '\''
  | '"' => some '"'
  | '$' => some '$'
  | ' ' => some ' '
  | _ => none

/-- The value of a variable; one that is not set has none. -/
def expand (environment : Environment) (name : List Char) : List Char :=
  ((environment (String.ofList name)).getD "").toList

/-- The rest of a value. The character that ends the name of a reference stands for itself. -/
def value? (environment : Environment) : Context → List Char → Option (List Char)
  | .text .plain, [] => some []
  | .reference .plain name, [] => some (expand environment name)
  | .text .plain, ['\\'] => some []
  | _, [] => none
  | .text .single, c :: rest =>
    if c = '\'' then value? environment (.text .plain) rest
    else (value? environment (.text .single) rest).map (c :: ·)
  | .reference quotation name, c :: rest =>
    if Text.isAlphanumeric c then value? environment (.reference quotation (name ++ [c])) rest
    else if c = '\x7b' ∧ name = [] then value? environment (.braced quotation []) rest
    else if c = '$' then
      (value? environment (.reference quotation []) rest).map (expand environment name ++ ·)
    else (value? environment (.text quotation) rest).map (expand environment name ++ c :: ·)
  | .braced quotation name, c :: rest =>
    if c = '\x7d' then
      (value? environment (.text quotation) rest).map (expand environment name ++ ·)
    else value? environment (.braced quotation (name ++ [c])) rest
  | .text quotation, '$' :: rest => value? environment (.reference quotation []) rest
  | .text quotation, '\\' :: c :: rest =>
    (escaped? c).bind fun c => (value? environment (.text quotation) rest).map (c :: ·)
  | .text .double, c :: rest =>
    if c = '"' then value? environment (.text .plain) rest
    else (value? environment (.text .double) rest).map (c :: ·)
  | .text .plain, c :: rest =>
    if c = '\'' then value? environment (.text .single) rest
    else if c = '"' then value? environment (.text .double) rest
    else if c = ' ' ∨ c = '\t' then if endsValue rest then some [] else none
    else (value? environment (.text .plain) rest).map (c :: ·)

end Itanium.Environment
