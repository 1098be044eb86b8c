/-!
# Sets of characters

Sets built from ranges by the operations on sets, and the sets that have a name.
-/
namespace Itanium.Text

inductive CharSet where
  | none
  /-- The characters between two, themselves included. -/
  | range (first last : Char)
  | union (left right : CharSet)
  | intersection (left right : CharSet)
  | difference (left right : CharSet)
  | symmetricDifference (left right : CharSet)
  | complement (set : CharSet)
  /-- With each ASCII letter its other case. -/
  | ignoringCase (set : CharSet)
deriving DecidableEq

namespace CharSet

def contains (set : CharSet) (c : Char) : Bool :=
  match set with
  | none => false
  | range first last => first ≤ c && c ≤ last
  | union left right => left.contains c || right.contains c
  | intersection left right => left.contains c && right.contains c
  | difference left right => left.contains c && !right.contains c
  | symmetricDifference left right => left.contains c != right.contains c
  | complement set => !set.contains c
  | ignoringCase set => set.contains c.toLower || set.contains c.toUpper

def singleton (c : Char) : CharSet :=
  range c c

def unions (sets : List CharSet) : CharSet :=
  sets.foldr union none

/-- Whether a set is seen to hold ASCII characters alone. -/
def isAscii : CharSet → Bool
  | none => true
  | range _ last => last.toNat < 0x80
  | union left right => left.isAscii && right.isAscii
  | intersection left right => left.isAscii || right.isAscii
  | difference left _ => left.isAscii
  | symmetricDifference left right => left.isAscii && right.isAscii
  | complement _ => false
  | ignoringCase set => set.isAscii

/-! ### Named sets -/

def digit : CharSet := range '0' '9'

def upper : CharSet := range 'A' 'Z'

def lower : CharSet := range 'a' 'z'

def alpha : CharSet := union upper lower

def alnum : CharSet := union digit alpha

def word : CharSet := union alnum (singleton '_')

def blank : CharSet := union (singleton '\t') (singleton ' ')

def space : CharSet := union (range '\t' '\r') (singleton ' ')

def punctuation : CharSet :=
  unions [range '!' '/', range ':' '@', range '[' '\x60', range '\x7b' '~']

/-- The set of a name. -/
def ofName? (name : String) : Option CharSet :=
  match name with
  | "alnum" => some alnum
  | "alpha" => some alpha
  | "ascii" => some (range '\x00' '\x7f')
  | "blank" => some blank
  | "cntrl" => some (union (range '\x00' '\x1f') (singleton '\x7f'))
  | "digit" => some digit
  | "graph" => some (range '!' '~')
  | "lower" => some lower
  | "print" => some (range ' ' '~')
  | "punct" => some punctuation
  | "space" => some space
  | "upper" => some upper
  | "word" => some word
  | "xdigit" => some (unions [digit, range 'A' 'F', range 'a' 'f'])
  | _ => Option.none

end CharSet

end Itanium.Text
