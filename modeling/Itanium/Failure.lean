import Itanium.Address
import Itanium.Image
import Itanium.Settings

/-!
# Failures

Everything that can end a run, with its message.
-/
namespace Itanium

inductive FileError where
  | notFound
  | isDirectory
  | isNoDirectory
  | nameTooLong
  | invalidUtf8
  | other (message : String)
deriving DecidableEq

def FileError.message : FileError → String
  | notFound => "No such file or directory (os error 2)"
  | isDirectory => "Is a directory (os error 21)"
  | isNoDirectory => "Not a directory (os error 20)"
  | nameTooLong => "File name too long (os error 36)"
  | invalidUtf8 => "stream did not contain valid UTF-8"
  | other message => message

inductive Failure where
  | file (error : FileError)
  | address (error : AddressError)
  | hexDump (error : HexDumpError)
  | image (error : ImageError)
  | invalidBundle (address : Word)
  | settings (error : SettingsError)
deriving DecidableEq

def Failure.message : Failure → String
  | file error => "I/O error: " ++ error.message
  | address error => "Parse error: " ++ error.message
  | hexDump error => "Parse error: " ++ error.message
  | image error => error.message
  | invalidBundle bundle => "Invalid bundle at " ++ ImageError.addressText bundle
  | settings error => "Config error: " ++ error.message

/-- An image from a hex dump. The dump is read before the base is checked. -/
def Image.ofHexDump (base : Word) (text : String) : Except Failure Image :=
  match HexDump.read text with
  | .error error => .error (.hexDump error)
  | .ok bytes => (Image.ofBytes base bytes.toArray).mapError .image

end Itanium
