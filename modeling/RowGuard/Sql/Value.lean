import RowGuard.Json.Decode
import RowGuard.Text.Blank
/-!
Scalar values of rows and literals: 64-bit integers, texts and NULL.
-/
namespace RowGuard.Sql

inductive Value where
  | int (n : Int64)
  | text (s : String)
  | null
  deriving DecidableEq, Repr, Inhabited

namespace Value

/-- What a character becomes inside a quoted literal: a quote is doubled, and a backslash and the
four control characters with a letter of their own are written with a backslash. -/
def escape (c : Char) : List Char :=
  if c = '\'' then ['\'', '\'']
  else if c = '\\' then ['\\', '\\']
  else if c.toNat = 0 then ['\\', '0']
  else if c = '\n' then ['\\', 'n']
  else if c = '\r' then ['\\', 'r']
  else if c.toNat = 0x1A then ['\\', 'Z']
  else [c]

def quoted (s : String) : String :=
  String.ofList ('\'' :: (s.toList.flatMap escape ++ ['\'']))

def render : Value → String
  | int n => Integer.text n.toInt
  | text s => quoted s
  | null => "NULL"

/-- The integer a value denotes in a comparison, white space around a text allowed. -/
def integer? (s : String) : Option Int64 := Integer.read? (Text.trim s)

/-- Equality of two values, unknown where either is NULL. An integer equals a text that denotes
it. -/
def equals : Value → Value → Option Bool
  | null, _ => none
  | _, null => none
  | int a, int b => some (a == b)
  | text a, text b => some (a == b)
  | int a, text b => some (integer? b == some a)
  | text a, int b => some (integer? a == some b)

/-- A value as a condition: integers other than zero are true, a text counts as the integer it
denotes, and other texts are false. -/
def truth : Value → Option Bool
  | null => none
  | int n => some (n != 0)
  | text s => some (match integer? s with
    | some n => n != 0
    | none => false)

def ofTruth : Option Bool → Value
  | some true => int 1
  | some false => int 0
  | none => null

def toText? : Value → Option String
  | int n => some (Integer.text n.toInt)
  | text s => some s
  | null => none

def toJson : Value → Json
  | int n => .int n.toInt
  | text s => .str s
  | null => .null

def ofJson? : Json → Option Value
  | .int n => if Integer.minimum ≤ n ∧ n ≤ Integer.maximum then some (int (Int64.ofInt n)) else none
  | .str s => some (text s)
  | .null => some null
  | _ => none

def decode : Json.Decoder Value := Json.Decoder.check ofJson? Json.Decoder.anything

@[simp] theorem truth_ofTruth (t : Option Bool) : truth (ofTruth t) = t := by
  rcases t with _ | _ | _ <;> decide

end Value

end RowGuard.Sql
