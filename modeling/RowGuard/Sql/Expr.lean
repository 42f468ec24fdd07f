import RowGuard.Sql.Column
import RowGuard.Sql.Value
/-!
Filter expressions. A pair of parentheses is a node of its own, so a tree says where it is grouped.
-/
namespace RowGuard.Sql

inductive Expr where
  | column (c : Column)
  | literal (v : Value)
  | eq (left right : Expr)
  | inValues (needle : Expr) (values : List Expr)
  /-- `needle IN (SELECT projection FROM source WHERE filter)`. -/
  | inSubquery (needle : Expr) (projection : Column) (source : String) (filter : Option Expr)
  | and (left right : Expr)
  | or (left right : Expr)
  | nested (inner : Expr)
  | function (name : String) (arguments : List Expr)
  deriving Inhabited, BEq

/-- `SELECT projection FROM source [WHERE filter]`. -/
structure Subquery where
  projection : Column
  source : String
  filter : Option Expr
  deriving Inhabited

inductive Membership where
  | values (items : List Expr)
  | subquery (query : Subquery)
  deriving Inhabited

namespace Expr

def int (n : Int64) : Expr := literal (.int n)

def text (s : String) : Expr := literal (.text s)

/-- The comparison of a column with a value, the form of every guard predicate on one column. -/
def columnEq (c : Column) (v : Value) : Expr := eq (column c) (literal v)

def within (needle : Expr) : Membership → Expr
  | .values items => inValues needle items
  | .subquery query => inSubquery needle query.projection query.source query.filter

/-- `1 = 0`, which no row satisfies. -/
def never : Expr := eq (int 1) (int 0)

def isAnd : Expr → Bool
  | and _ _ => true
  | _ => false

def isOr : Expr → Bool
  | or _ _ => true
  | _ => false

/-- Conjunctions and disjunctions; everything else binds tighter than both. -/
def isCompound (e : Expr) : Bool := e.isAnd || e.isOr

end Expr

end RowGuard.Sql
