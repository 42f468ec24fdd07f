import RowGuard.Text.Case
/-!
The header lines of a request. Names are compared without regard to case, and of several lines with
one name the first counts.
-/
namespace RowGuard.Http

abbrev Headers := List (String × String)

def isWordChar (c : Char) : Bool :=
  c.isAlphanum || "!#$%&'*+-.^_\x60|~".toList.contains c

def isWord (s : String) : Bool := !s.isEmpty && s.toList.all isWordChar

def isVisible (c : Char) : Bool := c == '\t' || (0x20 ≤ c.toNat && c.toNat < 0x7F)

namespace Headers

/-- The value of a header. What is no name has none. -/
def get? (headers : Headers) (name : String) : Option String :=
  if isWord name then
    (headers.find? fun line => Text.sameLetters line.1 name).map Prod.snd
  else none

def isText (value : String) : Bool := value.toList.all isVisible

def text? (headers : Headers) (name : String) : Option String :=
  (headers.get? name).filter isText

end Headers

end RowGuard.Http
