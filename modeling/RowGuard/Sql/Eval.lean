import RowGuard.Sql.Row
import RowGuard.Sql.Render
import RowGuard.Text.Case
/-!
Evaluating a filter against one row. Conditions have three truth values, comparisons with NULL are
unknown, and a row matches only where the filter is definitely true. Every expression has a scalar
value; a condition counts as 1, 0 or NULL.
-/
namespace RowGuard.Sql

inductive EvalError where
  | subquery (text : String)
  | unknownFunction (name : String)
  | arity (name : String) (expected got : Nat)
  deriving DecidableEq, Repr

def EvalError.message : EvalError → String
  | .subquery text => "subqueries cannot be evaluated in memory: " ++ text
  | .unknownFunction name => "unknown function '" ++ name ++ "'"
  | .arity name expected got =>
    "function '" ++ name ++ "' expects " ++ Integer.text expected ++ " arguments, got " ++
      Integer.text got

abbrev Eval (α : Type) := Except EvalError α

/-- The one-based place of the first item that equals `needle`, zero where there is none. -/
def positionOf (needle : String) (items : List String) : Nat :=
  match items.findIdx? (· == needle) with
  | some index => index + 1
  | none => 0

/-- The place of `needle` in a comma-separated list, NULL where either is NULL. -/
def findInSet (needle list : Value) : Value :=
  match needle.toText?, list.toText? with
  | some needle, some list => .int (Int64.ofNat (positionOf needle (Text.split ',' list)))
  | _, _ => .null

/-- Calls the one known function; its name may be written in any case. -/
def callFunction (name : String) (arguments : List (Eval Value)) : Eval Value :=
  if !Text.sameLetters name "FIND_IN_SET" then .error (.unknownFunction name)
  else match arguments with
    | [needle, list] => do return findInSet (← needle) (← list)
    | _ => .error (.arity name 2 arguments.length)

theorem callFunction_findInSet {name : String}
    (called : Text.sameLetters name "FIND_IN_SET" = true) (needle list : Value) :
    callFunction name [.ok needle, .ok list] = .ok (findInSet needle list) := by
  rw [callFunction, called]
  rfl

/-- Whether a value equals one of a list, looked for from the left: the first match or error
decides, and a NULL leaves the answer unknown. -/
def memberOf (needle : Value) (unknown : Bool) : List (Eval Value) → Eval (Option Bool)
  | [] => .ok (if unknown then none else some false)
  | value :: rest => do
    match needle.equals (← value) with
    | some true => return some true
    | some false => memberOf needle unknown rest
    | none => memberOf needle true rest

/-- The conjunction of two conditions; a false left one decides alone. -/
def bothTrue (left right : Eval (Option Bool)) : Eval (Option Bool) := do
  let l ← left
  if l = some false then return some false
  match l, ← right with
  | _, some false => return some false
  | some true, some true => return some true
  | _, _ => return none

def someTrue (left right : Eval (Option Bool)) : Eval (Option Bool) := do
  let l ← left
  if l = some true then return some true
  match l, ← right with
  | _, some true => return some true
  | some false, some false => return some false
  | _, _ => return none

namespace Expr

mutual

def value (row : Row) : Expr → Eval Value
  | .column c => .ok ((row c).getD .null)
  | .literal v => .ok v
  | .eq left right => do
    return .ofTruth ((← value row left).equals (← value row right))
  | .inValues needle values => do
    return .ofTruth (← memberOf (← value row needle) false (valueEach row values))
  | .inSubquery needle projection source filter => do
    let _ ← value row needle
    .error (.subquery (selectText projection source (renderFilter filter)))
  | .and left right =>
    (bothTrue ((value row left).map Value.truth) ((value row right).map Value.truth)).map .ofTruth
  | .or left right =>
    (someTrue ((value row left).map Value.truth) ((value row right).map Value.truth)).map .ofTruth
  | .nested inner => value row inner
  | .function name arguments => callFunction name (valueEach row arguments)

def valueEach (row : Row) : List Expr → List (Eval Value)
  | [] => []
  | e :: rest => value row e :: valueEach row rest

end

/-- The truth value of an expression on a row, `none` where it is unknown. -/
def truth (row : Row) (e : Expr) : Eval (Option Bool) := (value row e).map Value.truth

end Expr

def Row.matches (row : Row) (filter : Expr) : Eval Bool :=
  (filter.truth row).map (· == some true)

end RowGuard.Sql
