import RowGuard.Identity.Id
/-!
Data scopes: which rows a role may see. A scope has a one-digit code, under which role stores keep
it, and a name; either spelling denotes it.
-/
namespace RowGuard

inductive DataScope where
  /-- Every row. -/
  | all
  /-- The rows of the departments linked to the role. -/
  | custom
  /-- The rows of the user's own department. -/
  | dept
  /-- The rows of the user's department and of every department below it. -/
  | deptAndChild
  /-- The rows the user owns. -/
  | ownRows
  deriving DecidableEq, Repr, Inhabited

namespace DataScope

def code : DataScope → String
  | all => "1"
  | custom => "2"
  | dept => "3"
  | deptAndChild => "4"
  | ownRows => "5"

def name : DataScope → String
  | all => "ALL"
  | custom => "CUSTOM"
  | dept => "DEPT"
  | deptAndChild => "DEPT_AND_CHILD"
  | ownRows => "SELF"

def every : List DataScope := [all, custom, dept, deptAndChild, ownRows]

def rank : DataScope → Nat
  | all => 0
  | custom => 1
  | dept => 2
  | deptAndChild => 3
  | ownRows => 4

def ofSpelling? (s : String) : Option DataScope :=
  every.find? fun scope => s == scope.code || s == scope.name

/-- Reads a code or a name with white space around it; an unknown one is reported trimmed. -/
def read (s : String) : Guarded DataScope :=
  match ofSpelling? (Text.trim s) with
  | some scope => .ok scope
  | none => .error (.unsupportedDataScope (Text.trim s))

def toJson (scope : DataScope) : Json := .str scope.name

def decode : Json.Decoder DataScope :=
  Json.Decoder.check (fun s => (read s).toOption) Json.Decoder.text

theorem rank_injective {a b : DataScope} (same : a.rank = b.rank) : a = b := by
  revert same
  cases a <;> cases b <;> decide

end DataScope

end RowGuard
