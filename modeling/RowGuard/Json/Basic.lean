import RowGuard.Collection.Table
/-!
JSON values. Integers are kept apart from numbers written with a fraction or an exponent, and the
members of an object stand in the order of their names when the object was read or built by
insertions.
-/
namespace RowGuard

inductive Json where
  | null
  | bool (b : Bool)
  | int (n : Int)
  | float (x : Float)
  | str (s : String)
  | arr (items : List Json)
  | obj (members : List (String × Json))
  deriving Inhabited, BEq

namespace Json

def isNull : Json → Bool
  | .null => true
  | _ => false

def member? (name : String) : Json → Option Json
  | .obj members => Table.find? name members
  | _ => none

def option {α : Type} (encode : α → Json) : Option α → Json
  | none => .null
  | some a => encode a

def list {α : Type} (encode : α → Json) (items : List α) : Json := .arr (items.map encode)

def optional {α : Type} (name : String) (encode : α → Json) : Option α → List (String × Json)
  | none => []
  | some a => [(name, encode a)]

end Json

end RowGuard
