import Itanium.Text.Blank
import Itanium.Text.Numeral

/-!
# Hex dumps

Bytes written in hexadecimal, separated by blanks or commas. A token may begin with `0x`, and may
hold several bytes in memory order. The length of a token is counted in UTF-8 bytes, and its digits
are read two bytes at a time; a character that does not fit such a pair is reported as cut.
-/
namespace Itanium

namespace HexDump

inductive ByteError where
  /-- A pair of bytes ends inside the character that starts at the index. -/
  | cutCharacter (index : Nat)
  | numeral (error : Numeral.ParseError)
deriving DecidableEq

def ByteError.message : ByteError → String
  | cutCharacter index => "incomplete utf-8 byte sequence from index " ++ Numeral.decimal index
  | numeral error => error.message

end HexDump

inductive HexDumpError where
  | oddLength (token : String)
  | invalidByte (token : String) (error : HexDump.ByteError)
deriving DecidableEq

def HexDumpError.message : HexDumpError → String
  | oddLength token => "Odd number of hex digits in '" ++ token ++ "'"
  | invalidByte token error => "Invalid hex '" ++ token ++ "': " ++ error.message

namespace HexDump

def isSeparator (c : Char) : Bool :=
  Text.isBlank c || c == ','

def utf8Length : List Char → Nat
  | [] => 0
  | c :: rest => c.utf8Size + utf8Length rest

def readByte (digits : List Char) : Except ByteError UInt8 :=
  match Numeral.parse 16 256 digits with
  | .ok value => .ok (UInt8.ofNat value)
  | .error error => .error (.numeral error)

/-- The bytes of a run of digits whose UTF-8 length is even. -/
def readRun : List Char → Except ByteError (List UInt8)
  | [] => .ok []
  | first :: rest =>
    if first.utf8Size = 2 then .error (.numeral .invalidDigit)
    else if 2 < first.utf8Size then .error (.cutCharacter 0)
    else match rest with
      | [] => .error (.numeral .empty)
      | second :: rest =>
        if second.utf8Size ≠ 1 then .error (.cutCharacter 1)
        else do
          let byte ← readByte [first, second]
          let bytes ← readRun rest
          return byte :: bytes

def readToken (token : List Char) : Except HexDumpError (List UInt8) :=
  let digits := (Text.splitHexMark token).1
  if utf8Length digits % 2 ≠ 0 then .error (.oddLength (String.ofList token))
  else match readRun digits with
    | .ok bytes => .ok bytes
    | .error error => .error (.invalidByte (String.ofList token) error)

def readTokens : List (List Char) → Except HexDumpError (List UInt8)
  | [] => .ok []
  | token :: rest => do
    let bytes ← readToken token
    let others ← readTokens rest
    return bytes ++ others

/-- The bytes of a dump. -/
def read (text : String) : Except HexDumpError (List UInt8) :=
  readTokens (Text.pieces isSeparator text.toList)

end HexDump

end Itanium
