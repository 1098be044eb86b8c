import Itanium.Settings
import Itanium.Settings.Document

/-!
# Settings files

The settings that a document gives. What it leaves out is standard.
-/
namespace Itanium.Settings

/-- The name of a switch in a settings file. -/
def Switch.key : Switch → String
  | .showAddress => "show_address"
  | .showTemplate => "show_template"
  | .showStops => "show_stops"
  | .showRawBits => "show_raw_bits"
  | .strict => "strict"

/-- An entry of an unknown key, or with a value of the wrong type, is refused. -/
def assign (settings : Settings) (entry : Entry) : Option Settings :=
  match entry.value with
  | .text value => if entry.key = "base" then some { settings with base := value } else none
  | .truth value => (Switch.all.find? (·.key == entry.key)).map (settings.set · value)

/-- The settings of a document. A key may stand only once. -/
def ofDocument (document : String) : Except String Settings :=
  match Document.entries? document with
  | none => .error "TOML parse error"
  | some entries =>
    if (entries.map (·.key)).Nodup then
      match entries.foldlM assign standard with
      | some settings => .ok settings
      | none => .error "TOML parse error"
    else .error "TOML parse error"

end Itanium.Settings
