import Itanium.Address
import Itanium.Environment
import Itanium.Listing

/-!
# Settings

What to list and where the image lies. Settings come in layers, each replacing what it sets in the
one below: the defaults or a settings file, variables of the environment, and the command line.
-/
namespace Itanium

structure Settings where
  /-- The address of the image, as it was written. -/
  base : String
  showAddress : Bool
  showTemplate : Bool
  showStops : Bool
  showRawBits : Bool
  /-- Whether to end at the first bundle that does not decode. -/
  strict : Bool
deriving DecidableEq

inductive SettingsError where
  /-- A file that is no document of settings, and why. -/
  | malformed (reason : String)
  | notBoolean (name text : String)
deriving DecidableEq

def SettingsError.message : SettingsError → String
  | malformed reason => reason
  | notBoolean name text => name ++ " must be a boolean, got '" ++ text ++ "'"

namespace Settings

def standard : Settings :=
  { base := "0", showAddress := true, showTemplate := true, showStops := true,
    showRawBits := false, strict := false }

/-- The settings that are on or off. -/
inductive Switch where
  | showAddress | showTemplate | showStops | showRawBits | strict
deriving DecidableEq

namespace Switch

/-- The order in which variables are applied. -/
def all : List Switch := [.showAddress, .showTemplate, .showStops, .showRawBits, .strict]

/-- The name in the environment. -/
def variableName : Switch → String
  | showAddress => "IA64DEC_SHOW_ADDRESS"
  | showTemplate => "IA64DEC_SHOW_TEMPLATE"
  | showStops => "IA64DEC_SHOW_STOPS"
  | showRawBits => "IA64DEC_SHOW_RAW_BITS"
  | strict => "IA64DEC_STRICT"

end Switch

def get (settings : Settings) : Switch → Bool
  | .showAddress => settings.showAddress
  | .showTemplate => settings.showTemplate
  | .showStops => settings.showStops
  | .showRawBits => settings.showRawBits
  | .strict => settings.strict

def set (settings : Settings) (switch : Switch) (value : Bool) : Settings :=
  match switch with
  | .showAddress => { settings with showAddress := value }
  | .showTemplate => { settings with showTemplate := value }
  | .showStops => { settings with showStops := value }
  | .showRawBits => { settings with showRawBits := value }
  | .strict => { settings with strict := value }

/-! ### Variables -/

/-- The words for on and off, in any case and with blanks around them. -/
def parseSwitch? (text : List Char) : Option Bool :=
  if text ∈ ["1", "true", "yes", "on"].map String.toList then some true
  else if text ∈ ["0", "false", "no", "off"].map String.toList then some false
  else none

/-- The form in which a word is compared and reported. -/
def foldWord (text : String) : List Char :=
  Text.lowerAscii (Text.trim text.toList)

/-- Applies the variables of switches in order. At the first one that is not a truth value it stops
and keeps what it has applied. -/
def applySwitches (environment : Environment) (settings : Settings) :
    List Switch → Settings × Option SettingsError
  | [] => (settings, none)
  | switch :: rest =>
    match environment switch.variableName with
    | none => applySwitches environment settings rest
    | some text =>
      match parseSwitch? (foldWord text) with
      | some value => applySwitches environment (settings.set switch value) rest
      | none =>
        (settings, some (.notBoolean switch.variableName (String.ofList (foldWord text))))

/-- The variable that sets the base. -/
def baseVariable : String := "IA64DEC_BASE"

/-- The variables that set anything. -/
def variableNames : List String :=
  baseVariable :: Switch.all.map (·.variableName)

/-- Replaces what the variables of the environment set. -/
def applyVariables (settings : Settings) (environment : Environment) :
    Settings × Option SettingsError :=
  let settings := match environment baseVariable with
    | some base => { settings with base }
    | none => settings
  applySwitches environment settings Switch.all

/-! ### Use -/

def baseAddress (settings : Settings) : Except AddressError Word :=
  Address.parse settings.base

def flags (settings : Settings) : Listing.Flags :=
  { address := settings.showAddress
    template := settings.showTemplate
    stops := settings.showStops
    rawBits := settings.showRawBits }

end Settings

end Itanium
