import Itanium.CommandLine.Formats
import Itanium.Json.Text
import Itanium.Settings.File

/-!
# The formats that the program uses
-/
namespace Itanium.CommandLine

def Formats.standard : Formats where
  readSettings := Settings.ofDocument
  printJson := Json.print

end Itanium.CommandLine
