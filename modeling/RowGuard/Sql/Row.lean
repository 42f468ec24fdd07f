import RowGuard.Sql.Value
import RowGuard.Sql.Column
import RowGuard.Json.Render
import Std.Data.HashMap
import Std.Data.TreeMap
/-!
Rows as filters see them: what a row holds under a column. Hash maps, ordered maps and JSON objects
are rows; each answers a qualified column under `qualifier.name` and, where it has nothing there,
under the bare name.
-/
namespace RowGuard.Sql

/-- The value of a column, absent where the row has no such column. -/
abbrev Row := Column → Option Value

namespace Row

def lookup {α : Type} (get : String → Option α) (c : Column) : Option α :=
  match c.qualifier with
  | some _ => (get c.render).or (get c.name)
  | none => get c.name

def ofHashMap (cells : Std.HashMap String Value) : Row := lookup fun key => cells[key]?

def ofTreeMap (cells : Std.TreeMap String Value) : Row := lookup fun key => cells[key]?

def ofTable (cells : Table Value) : Row := lookup fun key => Table.find? key cells

/-- A JSON value as a cell. Values that are no integer, text or NULL count as their JSON text. -/
def cell : Json → Value
  | .null => .null
  | .int n =>
    if Integer.minimum ≤ n ∧ n ≤ Integer.maximum then .int (Int64.ofInt n)
    else .text (Json.render (.int n))
  | .str s => .text s
  | json => .text json.render

/-- An object is searched before what is found is made a cell of. -/
def ofJson (members : List (String × Json)) : Row := fun c =>
  ((c.qualifier.bind fun qualifier => Table.find? (qualifier ++ "." ++ c.name) members).or
    (Table.find? c.name members)).map cell

end Row

end RowGuard.Sql
