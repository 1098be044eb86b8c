/-!
# Blanks and tokens

The characters that Unicode counts as white space, and trimming and cutting of texts.
-/
namespace Itanium.Text

/-- The characters with the property `White_Space`. -/
def isBlank (c : Char) : Bool :=
  let n := c.toNat
  (0x09 ≤ n && n ≤ 0x0D) || n == 0x20 || n == 0x85 || n == 0xA0 || n == 0x1680 ||
    (0x2000 ≤ n && n ≤ 0x200A) || n == 0x2028 || n == 0x2029 || n == 0x202F || n == 0x205F ||
    n == 0x3000

/-- Removes blanks at both ends. -/
def trim (text : List Char) : List Char :=
  ((text.dropWhile isBlank).reverse.dropWhile isBlank).reverse

/-- The pieces between separators, empty ones included. -/
def pieces (isSeparator : Char → Bool) : List Char → List (List Char)
  | [] => [[]]
  | c :: rest =>
    if isSeparator c then [] :: pieces isSeparator rest
    else match pieces isSeparator rest with
      | [] => [[c]]
      | piece :: others => (c :: piece) :: others

/-- Capital letters of the ASCII range become small. -/
def lowerAscii (text : List Char) : List Char :=
  text.map Char.toLower

/-- The text after an optional `0x` or `0X`, and whether it was there. -/
def splitHexMark : List Char → List Char × Bool
  | '0' :: 'x' :: digits => (digits, true)
  | '0' :: 'X' :: digits => (digits, true)
  | digits => (digits, false)

end Itanium.Text
