import RowGuard.Number.Integer
import RowGuard.Text.Split
/-!
Sets of code points. They are written as hexadecimal numbers with blanks between them, and as ranges
with a hyphen between the first and the last number.
-/
namespace RowGuard

/-- A set of code points, as closed ranges. -/
structure CodePoints where
  ranges : List (Nat × Nat)

namespace CodePoints

def contains (set : CodePoints) (c : Char) : Bool :=
  set.ranges.any fun range => range.1 ≤ c.toNat && c.toNat ≤ range.2

def words (line : String) : List (List Char) := Text.splitChars ' ' line.toList

def number (word : List Char) : Nat := (Integer.ofChars? 16 word).getD 0

def range (word : List Char) : Nat × Nat :=
  match Text.splitChars '-' word with
  | [first, last] => (number first, number last)
  | _ => (number word, number word)

def ofLines (lines : List String) : CodePoints :=
  ⟨lines.flatMap fun line => (words line).map range⟩

end CodePoints

end RowGuard
