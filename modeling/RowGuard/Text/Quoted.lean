import RowGuard.Text.Visible
/-!
Text in double quotes. Quotes and backslashes are escaped, so the quoted text ends at its only bare
quote, and a character without a glyph of its own is written by its number.
-/
namespace RowGuard.Text

def lowerHex (n : Nat) : String := String.ofList (Nat.toDigits 16 n)

def quotedChar (c : Char) : String :=
  match c with
  | '"' => "\\\""
  | '\\' => "\\\\"
  | '\x00' => "\\0"
  | '\t' => "\\t"
  | '\r' => "\\r"
  | '\n' => "\\n"
  | c => if isVisible c then c.toString else "\\u\x7b" ++ lowerHex c.toNat ++ "\x7d"

def quoted (s : String) : String := "\"" ++ String.join (s.toList.map quotedChar) ++ "\""

end RowGuard.Text
