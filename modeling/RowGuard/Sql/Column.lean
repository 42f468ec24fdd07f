import RowGuard.Json.Decode
import RowGuard.Text.Blank
/-!
Column references, bare or qualified by the alias of a table.
-/
namespace RowGuard.Sql

structure Column where
  qualifier : Option String
  name : String
  deriving DecidableEq, Repr, Inhabited

namespace Column

def bare (name : String) : Column := ⟨none, name⟩

/-- A column under an alias; a blank alias is no alias. -/
def qualified (shortName name : String) : Column :=
  let qualifier := Text.trim shortName
  ⟨if qualifier.isEmpty then none else some qualifier, name⟩

def render (column : Column) : String :=
  match column.qualifier with
  | some qualifier => qualifier ++ "." ++ column.name
  | none => column.name

def toJson (column : Column) : Json :=
  .obj (("name", .str column.name) :: Json.optional "qualifier" Json.str column.qualifier)

def fields : List (Json.Decoder.Field Column) :=
  [.defaulted "qualifier" (Json.Decoder.nullable Json.Decoder.text)
      fun v c => { c with qualifier := v },
    .required "name" Json.Decoder.text fun v c => { c with name := v }]

def decode : Json.Decoder Column := Json.Decoder.record fields default

end Column

end RowGuard.Sql
