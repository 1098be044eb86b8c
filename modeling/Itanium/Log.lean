import Itanium.Pattern.Reading

/-!
# Log

Messages with a severity and the part of the program that they come from, and the filter that
decides which are shown. Of the directives of a filter that apply to a part, the one with the
longest name sets the least severity.
-/
namespace Itanium.Log

inductive Severity where
  | error | warning | info | debug | trace
deriving DecidableEq

namespace Severity

/-- How much is shown from this severity up; nothing is 0. -/
def rank : Severity → Nat
  | error => 1
  | warning => 2
  | info => 3
  | debug => 4
  | trace => 5

def text : Severity → String
  | error => "ERROR"
  | warning => "WARN"
  | info => "INFO"
  | debug => "DEBUG"
  | trace => "TRACE"

end Severity

/-- The parts of the program that log. -/
inductive Part where
  | commandLine | settings | image | decoder | tracer
deriving DecidableEq

/-- The name by which a directive selects a part, or several that begin alike. -/
def Part.name : Part → String
  | commandLine => "ia64dec"
  | settings => "ia64dec::core::config"
  | image => "ia64dec::core::loader"
  | decoder => "ia64dec::core::decoder"
  | tracer => "ia64dec::core::tracer"

structure Entry where
  part : Part
  severity : Severity
  message : String
deriving DecidableEq

/-- The line of an entry, without the time. -/
def Entry.line (entry : Entry) : String :=
  entry.severity.text ++ " " ++ entry.message

structure Directive where
  /-- What the name of a part begins with; without a name the directive applies to every part. -/
  name : Option (List Char)
  rank : Nat
deriving DecidableEq

namespace Directive

def appliesTo (directive : Directive) (part : Part) : Bool :=
  directive.name.all (·.isPrefixOf part.name.toList)

/-- How specific a directive is. -/
def length (directive : Directive) : Nat :=
  (directive.name.getD []).length

end Directive

structure Filter where
  directives : List Directive
  /-- A pattern that occurs in every message shown. -/
  pattern : Option Pattern
deriving DecidableEq

namespace Filter

/-- The variable of the environment that holds a filter. -/
def variableName : String := "RUST_LOG"

/-- What is shown where no filter is given. -/
def standard : Filter :=
  { directives := [⟨none, Severity.info.rank⟩], pattern := none }

/-- The rank of a level's name, in any case. -/
def levelRank? (text : List Char) : Option Nat :=
  match String.ofList (Text.lowerAscii text) with
  | "off" => some 0
  | "error" => some 1
  | "warn" => some 2
  | "info" => some 3
  | "debug" => some 4
  | "trace" => some 5
  | _ => none

/-- A level, a name, or a name with a level. A name alone shows everything. -/
def directive? (text : List Char) : Option Directive :=
  match Text.pieces (· == '=') text with
  | [single] =>
    match levelRank? single with
    | some rank => some ⟨none, rank⟩
    | none => some ⟨some single, Severity.trace.rank⟩
  | [name, level] =>
    if (Text.trim level).isEmpty then some ⟨some name, Severity.trace.rank⟩
    else (levelRank? (Text.trim level)).map (⟨some name, ·⟩)
  | _ => none

/-- Adds a directive. It takes the place of one of the same name. -/
def insert (directive : Directive) : List Directive → List Directive
  | [] => [directive]
  | other :: rest =>
    if other.name = directive.name then directive :: rest else other :: insert directive rest

/-- Directives separated by commas; those that make no sense are left out. -/
def parseDirectives (text : List Char) : List Directive :=
  let words := (Text.pieces (· == ',') text).map Text.trim
  ((words.filter (!·.isEmpty)).filterMap directive?).foldl (fun others directive =>
    insert directive others) []

/-- Directives, and behind a slash a pattern for messages; one that makes no sense is left out.
Without directives only errors are shown. -/
def parse (text : String) : Filter :=
  let (directives, pattern) := match Text.pieces (· == '/') text.toList with
    | [words] => (parseDirectives words, none)
    | [words, pattern] => (parseDirectives words, Pattern.parse? pattern)
    | _ => ([], none)
  { directives := if directives.isEmpty then [⟨none, Severity.error.rank⟩] else directives
    pattern }

/-- The more specific of two directives, the later one if they are equally specific. -/
def moreSpecific (chosen : Option Directive) (directive : Directive) : Option Directive :=
  match chosen with
  | some other => if directive.length < other.length then some other else some directive
  | none => some directive

/-- The least severity, as a rank, that is shown of a part. -/
def rank (filter : Filter) (part : Part) : Nat :=
  let applicable := filter.directives.filter (·.appliesTo part)
  ((applicable.foldl moreSpecific none).map (·.rank)).getD 0

def shows (filter : Filter) (entry : Entry) : Bool :=
  entry.severity.rank ≤ filter.rank entry.part &&
    filter.pattern.all (·.occursIn entry.message.toList)

end Filter

end Itanium.Log
