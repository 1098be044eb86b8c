import Itanium.Text.Numeral

/-!
# Options

The grammar of the command line. An option that takes a value finds it behind `=`, directly behind
its letter, or in the next argument unless that begins with a minus sign. Nothing may be given
twice, `--` ends the options, and there is exactly one input.
-/
namespace Itanium.CommandLine

/-- Options that are given or not. -/
inductive Flag where
  | hex | json | bits | noAddress | strict
deriving DecidableEq

namespace Flag

def all : List Flag := [.hex, .json, .bits, .noAddress, .strict]

def name : Flag → String
  | hex => "hex"
  | json => "json"
  | bits => "bits"
  | noAddress => "no-address"
  | strict => "strict"

end Flag

/-- Options that take a value. -/
inductive Parameter where
  | base | start | count | settings | trace
deriving DecidableEq

namespace Parameter

def all : List Parameter := [.base, .start, .count, .settings, .trace]

def name : Parameter → String
  | base => "base"
  | start => "start"
  | count => "count"
  | settings => "config"
  | trace => "trace"

def letter : Parameter → Char
  | base => 'b'
  | start => 's'
  | count => 'n'
  | settings => 'c'
  | trace => 't'

end Parameter

/-! ### Arguments one by one -/

inductive Item where
  | input (text : String)
  | flag (flag : Flag)
  | parameter (parameter : Parameter) (value : String)
deriving DecidableEq

/-- What one argument is, before the next is looked at. -/
inductive Argument where
  | endOfOptions
  | item (item : Item)
  | awaitsValue (parameter : Parameter)
  | unknown

/-- An argument that looks like an option and so is no value. -/
def looksLikeOption : List Char → Bool
  | '-' :: _ :: _ => true
  | _ => false

/-- An option written with its name, and the value behind the first `=`, if there is one. -/
def longOption (name : List Char) (value : Option (List Char)) : Argument :=
  match Parameter.all.find? (·.name.toList == name), value with
  | some parameter, some value => .item (.parameter parameter (String.ofList value))
  | some parameter, none => .awaitsValue parameter
  | none, some _ => .unknown
  | none, none =>
    match Flag.all.find? (·.name.toList == name) with
    | some flag => .item (.flag flag)
    | none => .unknown

/-- An option written with its letter, and what follows the letter. -/
def shortOption (letter : Char) (attached : List Char) : Argument :=
  match Parameter.all.find? (·.letter == letter), attached with
  | none, _ => .unknown
  | some parameter, [] => .awaitsValue parameter
  | some parameter, '=' :: value => .item (.parameter parameter (String.ofList value))
  | some parameter, value => .item (.parameter parameter (String.ofList value))

def classify (argument : String) : Argument :=
  match argument.toList with
  | ['-', '-'] => .endOfOptions
  | '-' :: '-' :: text =>
    match text.dropWhile (· ≠ '=') with
    | [] => longOption text none
    | _ :: value => longOption (text.takeWhile (· ≠ '=')) (some value)
  | '-' :: letter :: attached => shortOption letter attached
  | _ => .item (.input argument)

def items? : List String → Option (List Item)
  | [] => some []
  | argument :: rest =>
    match classify argument, rest with
    | .endOfOptions, rest => some (rest.map .input)
    | .item item, rest => (items? rest).map (item :: ·)
    | .awaitsValue _, [] => none
    | .awaitsValue parameter, value :: rest =>
      if looksLikeOption value.toList then none
      else (items? rest).map (.parameter parameter value :: ·)
    | .unknown, _ => none

/-! ### All arguments together -/

structure Options where
  input : String
  hex : Bool
  json : Bool
  bits : Bool
  noAddress : Bool
  strict : Bool
  base : Option String
  start : Option String
  count : Option Nat
  settings : Option String
  trace : Option String
deriving DecidableEq

namespace Items

def inputs (items : List Item) : List String :=
  items.filterMap fun
    | .input text => some text
    | _ => none

def flags (items : List Item) : List Flag :=
  items.filterMap fun
    | .flag flag => some flag
    | _ => none

def parameters (items : List Item) : List (Parameter × String) :=
  items.filterMap fun
    | .parameter parameter value => some (parameter, value)
    | _ => none

end Items

/-- A count is a decimal number that fits in 64 bits. -/
def count? (text : String) : Option Nat :=
  (Numeral.parse 10 (1 <<< 64) text.toList).toOption

/-- The options of a list of arguments, unless it breaks the grammar. -/
def Options.parse? (arguments : List String) : Option Options := do
  let items ← items? arguments
  let flags := Items.flags items
  let parameters := Items.parameters items
  match Items.inputs items with
  | [input] =>
    if flags.Nodup ∧ (parameters.map (·.1)).Nodup then
      let count ← match parameters.lookup .count with
        | none => some none
        | some text => (count? text).map some
      return {
        input
        hex := flags.contains .hex
        json := flags.contains .json
        bits := flags.contains .bits
        noAddress := flags.contains .noAddress
        strict := flags.contains .strict
        base := parameters.lookup .base
        start := parameters.lookup .start
        count
        settings := parameters.lookup .settings
        trace := parameters.lookup .trace }
    else none
  | _ => none

end Itanium.CommandLine
