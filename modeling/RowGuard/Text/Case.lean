/-!
ASCII letter case. Only the twenty-six letters change; every other character, accented letters
included, is left as it is.
-/
namespace RowGuard.Text

def lower (s : String) : String := String.ofList (s.toList.map Char.toLower)

def upper (s : String) : String := String.ofList (s.toList.map Char.toUpper)

/-- Equality up to the case of ASCII letters. -/
def sameLetters (a b : String) : Bool := lower a == lower b

end RowGuard.Text
