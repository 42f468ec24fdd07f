import RowGuard.DomainName.Mapping.Table
/-!
Spelling of domain names. Names that look alike or differ in capital letters only are spelled the
same way: every character is kept, dropped, replaced by others, or refused.
-/
namespace RowGuard.DomainName.Mapping

def charsOf (word : List Char) : List Char :=
  (Text.splitChars '+' word).map fun part => Char.ofNat (CodePoints.number part)

/-- The replacements in the words of a line. `code` is the character that the next word is for. -/
def replacementsOf (code : Nat) : List (List Char) → List (Nat × List Char)
  | [] => []
  | word :: rest =>
    if word.getLast? = some ':' then replacementsOf (CodePoints.number word.dropLast) rest
    else (code, charsOf word) :: replacementsOf (code + 1) rest

def replacements : List (Nat × List Char) :=
  seriesLines.flatMap fun line => replacementsOf 0 (CodePoints.words line)

def Shift.covers (shift : Shift) (c : Char) : Bool :=
  shift.first ≤ c.toNat && c.toNat ≤ shift.last &&
    (c.toNat - shift.first) % shift.stride == 0

def Shift.apply (shift : Shift) (c : Char) : Char :=
  Char.ofNat (shift.target + (c.toNat - shift.first))

def char? (c : Char) : Option (List Char) :=
  if dropped.contains c then some []
  else if refused.contains c then none
  else match shifts.find? (·.covers c) with
    | some shift => some [shift.apply c]
    | none => some ((replacements.lookup c.toNat).getD [c])

def chars? (cs : List Char) : Option (List Char) := (cs.mapM char?).map List.flatten

def keeps (c : Char) : Bool := char? c == some [c]

end RowGuard.DomainName.Mapping
