import RowGuard.Sql.Expr
import RowGuard.Text.Split
/-!
The SQL text of an expression. Parentheses are added where the text would otherwise group in
another way than the tree: around a disjunction under a conjunction, and around both under a
comparison.
-/
namespace RowGuard.Sql

def parenthesized (s : String) : String := "(" ++ s ++ ")"

namespace Expr

def operandText (e : Expr) (s : String) : String := if e.isCompound then parenthesized s else s

def conjunctText (e : Expr) (s : String) : String := if e.isOr then parenthesized s else s

def selectText (projection : Column) (source : String) (filter : Option String) : String :=
  "SELECT " ++ projection.render ++ " FROM " ++ source ++
    match filter with
    | some condition => " WHERE " ++ condition
    | none => ""

mutual

def render : Expr → String
  | .column c => c.render
  | .literal v => v.render
  | .eq left right => operandText left (render left) ++ " = " ++ operandText right (render right)
  | .inValues needle values =>
    operandText needle (render needle) ++ " IN (" ++ Text.join ", " (renderOperands values) ++ ")"
  | .inSubquery needle projection source filter =>
    operandText needle (render needle) ++ " IN (" ++
      selectText projection source (renderFilter filter) ++ ")"
  | .and left right =>
    conjunctText left (render left) ++ " AND " ++ conjunctText right (render right)
  | .or left right => render left ++ " OR " ++ render right
  | .nested inner => parenthesized (render inner)
  | .function name arguments => name ++ "(" ++ Text.join ", " (renderAll arguments) ++ ")"

def renderOperands : List Expr → List String
  | [] => []
  | e :: rest => operandText e (render e) :: renderOperands rest

def renderAll : List Expr → List String
  | [] => []
  | e :: rest => render e :: renderAll rest

def renderFilter : Option Expr → Option String
  | none => none
  | some e => some (render e)

end

end Expr

def Subquery.render (query : Subquery) : String :=
  Expr.selectText query.projection query.source (Expr.renderFilter query.filter)

end RowGuard.Sql
