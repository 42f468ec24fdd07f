import RowGuard.Number.Integer
import RowGuard.Text.Utf8
/-!
Escapes in URLs. A percent sign and two hexadecimal digits stand for a byte; any other percent sign
stands for itself.
-/
namespace RowGuard.Text.Percent

def digit? (byte : UInt8) : Option Nat := Integer.hexDigit? (Char.ofNat byte.toNat)

def decodeBytes : List UInt8 → List UInt8
  | byte :: high :: low :: rest =>
    if byte = 37 then
      match digit? high, digit? low with
      | some h, some l => UInt8.ofNat (16 * h + l) :: decodeBytes rest
      | _, _ => byte :: decodeBytes (high :: low :: rest)
    else byte :: decodeBytes (high :: low :: rest)
  | bytes => bytes

def bytes (s : String) : List UInt8 := decodeBytes s.toUTF8.data.toList

def decode (s : String) : Except Utf8.Fault String := Utf8.decode (bytes s)

/-- The text a name or value of a query stands for, where a plus stands for a space. -/
def decodeQuery (s : String) : String :=
  Utf8.decodeLossy (bytes (String.ofList (s.toList.map fun c => if c = '+' then ' ' else c)))

def hexDigit (n : Nat) : Char := (Nat.digitChar n).toUpper

def encode (keeps : Char → Bool) (s : String) : String :=
  String.ofList (s.toList.flatMap fun c =>
    if keeps c then [c]
    else (String.utf8EncodeChar c).flatMap fun byte =>
      ['%', hexDigit (byte.toNat / 16), hexDigit (byte.toNat % 16)])

end RowGuard.Text.Percent
