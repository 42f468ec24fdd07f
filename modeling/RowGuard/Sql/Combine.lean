import RowGuard.Sql.Expr
/-!
Joining expressions. An operand whose own operator is the other one gets parentheses of its own,
so the joined tree means the same however it is written or extended.
-/
namespace RowGuard.Sql.Expr

def grouped : Expr → Expr
  | .nested inner => .nested inner
  | e => .nested e

def conjoin (a b : Expr) : Expr :=
  .and (if a.isOr then grouped a else a) (if b.isOr then grouped b else b)

def disjoin (a b : Expr) : Expr :=
  .or (if a.isAnd then grouped a else a) (if b.isAnd then grouped b else b)

def conjoinAll : List Expr → Option Expr
  | [] => none
  | e :: rest => some (rest.foldl conjoin e)

def disjoinAll : List Expr → Option Expr
  | [] => none
  | e :: rest => some (rest.foldl disjoin e)

/-- Adds a predicate to a filter: without a filter it stands alone, otherwise it joins the filter
in parentheses. -/
def restrict (existing : Option Expr) (predicate : Expr) : Expr :=
  match existing with
  | none => predicate
  | some filter => conjoin filter (grouped predicate)

end RowGuard.Sql.Expr
