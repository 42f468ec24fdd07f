import RowGuard.Json.Basic
import RowGuard.Number.Shortest
import RowGuard.Text.Split
/-!
The compact text of a JSON value: no white space, the shortest number texts, and escapes only for
quotes, backslashes and control characters.
-/
namespace RowGuard.Json

/-- Numbers are written positionally for leading exponents from -5 to 15. -/
def numberLayout : Number.Layout := ⟨-5, 15⟩

def hexDigits (n : Nat) : List Char := [Nat.digitChar (n / 16), Nat.digitChar (n % 16)]

def escapeChar (c : Char) : List Char :=
  if c = '"' then ['\\', '"']
  else if c = '\\' then ['\\', '\\']
  else if c = '\n' then ['\\', 'n']
  else if c = '\r' then ['\\', 'r']
  else if c = '\t' then ['\\', 't']
  else if c.toNat = 8 then ['\\', 'b']
  else if c.toNat = 12 then ['\\', 'f']
  else if c.toNat < 32 then '\\' :: 'u' :: '0' :: '0' :: hexDigits c.toNat
  else [c]

def quoted (s : String) : String :=
  String.ofList ('"' :: (s.toList.flatMap escapeChar ++ ['"']))

mutual

def render : Json → String
  | .null => "null"
  | .bool true => "true"
  | .bool false => "false"
  | .int n => Integer.text n
  | .float x => numberLayout.text x
  | .str s => quoted s
  | .arr items => "[" ++ Text.join "," (renderItems items) ++ "]"
  | .obj members => "\x7b" ++ Text.join "," (renderMembers members) ++ "\x7d"

def renderItems : List Json → List String
  | [] => []
  | item :: rest => render item :: renderItems rest

def renderMembers : List (String × Json) → List String
  | [] => []
  | (name, value) :: rest => (quoted name ++ ":" ++ render value) :: renderMembers rest

end

end RowGuard.Json
