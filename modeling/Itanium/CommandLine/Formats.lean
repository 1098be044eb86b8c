import Itanium.Json
import Itanium.Settings

/-!
# Formats of files

A run reads settings from TOML documents and prints records as JSON texts. Libraries read the ones
and print the others, and a run is a run with whatever libraries it is given.
-/
namespace Itanium.CommandLine

structure Formats where
  /-- The settings of a document, or why it has none. -/
  readSettings : String → Except String Settings
  /-- The text of a value. -/
  printJson : Json → String

end Itanium.CommandLine
