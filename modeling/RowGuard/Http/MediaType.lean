import RowGuard.Http.Header
/-!
Media types: two words with a slash between them, the second perhaps with a suffix behind a plus
sign, and parameters behind semicolons.
-/
namespace RowGuard.Http

structure MediaType where
  type : String
  subtype : String
  suffix : Option String := none
  deriving DecidableEq, Repr

namespace MediaType

inductive Place where
  | beforeName
  | inName
  | beforeValue
  | inValue
  /-- Behind the opening quote of a value; the next character belongs to it whatever it is. -/
  | opened
  | inQuotes
  | closed
  deriving DecidableEq, Repr

def isQuotable (c : Char) : Bool := 0x20 ≤ c.toNat && c.toNat != 0x7F

def Place.next : Place → Char → Option Place
  | beforeName, c =>
    if c == ' ' then some beforeName else if isWordChar c then some inName else none
  | inName, c => if isWordChar c then some inName else if c == '=' then some beforeValue else none
  | beforeValue, c =>
    if c == '"' then some opened else if isWordChar c then some inValue else none
  | inValue, c =>
    if isWordChar c then some inValue else if c == ';' then some beforeName else none
  | opened, c => if isQuotable c then some inQuotes else none
  | inQuotes, c =>
    if c == '"' then some closed else if isQuotable c then some inQuotes else none
  | closed, c =>
    if c == ';' then some beforeName else if c == ' ' then some closed else none

def Place.isEnd : Place → Bool
  | inName => false
  | opened => false
  | inQuotes => false
  | _ => true

def readable (parameters : List Char) : Bool :=
  (parameters.foldlM Place.next .beforeName).any Place.isEnd

/-- Cuts the suffix off a subtype, at the last plus sign with something before it. -/
def cutSuffix (subtype : List Char) : List Char × Option (List Char) :=
  let suffix := (subtype.reverse.takeWhile (· != '+')).reverse
  let rest := (subtype.reverse.dropWhile (· != '+')).reverse.dropLast
  if rest.isEmpty then (subtype, none) else (rest, some suffix)

def ofWords (type subtype : List Char) : MediaType :=
  let shown (cs : List Char) : String := Text.lower (String.ofList cs)
  let (main, suffix) := cutSuffix subtype
  ⟨shown type, shown main, suffix.map shown⟩

def read? (s : String) : Option MediaType :=
  let type := s.toList.takeWhile isWordChar
  match s.toList.dropWhile isWordChar with
  | '/' :: rest =>
    let subtype := rest.takeWhile isWordChar
    if type.isEmpty then none
    else match rest.dropWhile isWordChar with
      | [] => some (ofWords type subtype)
      | ';' :: parameters =>
        if !subtype.isEmpty && readable parameters then some (ofWords type subtype) else none
      | _ => none
  | _ => none

def isJson (m : MediaType) : Bool :=
  m.type == "application" && (m.subtype == "json" || m.suffix == some "json")

end MediaType

end RowGuard.Http
