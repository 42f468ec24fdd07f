import RowGuard.Access.Descriptor
import RowGuard.Identity.User
import RowGuard.Sql.Combine
/-!
From the roles of a user to the rows the user may see. Roles add up: a row is visible if any one
role grants it, and a role for every row ends the matter.
-/
namespace RowGuard

open Sql

inductive Resolution where
  /-- Every row. -/
  | unrestricted
  /-- The rows that satisfy the predicate. -/
  | restricted (predicate : Expr)
  /-- No row. -/
  | denyAll

namespace Resolution

def predicate : Resolution → Option Expr
  | unrestricted => none
  | restricted e => some e
  | denyAll => some Expr.never

def isUnrestricted : Resolution → Bool
  | unrestricted => true
  | _ => false

def kind : Resolution → String
  | unrestricted => "Unrestricted"
  | restricted _ => "Restricted"
  | denyAll => "DenyAll"

end Resolution

def deptTreeCondition (dept : DeptId) (d : EntityDescriptor) : Expr :=
  .inSubquery (.column d.deptColumn) (.bare d.idColumn) d.deptTable
    (some (Expr.disjoin
      (.columnEq (.bare d.idColumn) (.int dept.value))
      (.function "FIND_IN_SET" [.int dept.value, .column (.bare d.ancestorsColumn)])))

def linkedDeptCondition (role : RoleId) (d : EntityDescriptor) : Expr :=
  .inSubquery (.column d.deptColumn) (.bare d.deptIdColumn) d.roleDeptTable
    (some (.columnEq (.bare d.roleIdColumn) (.int role.value)))

/-- The condition on the rows a role grants, absent where it grants every row. -/
def Role.condition (role : Role) (user : User) (d : EntityDescriptor) : Option Expr :=
  match role.scope with
  | .all => none
  | .custom => some (linkedDeptCondition role.id d)
  | .dept => some (.columnEq d.deptColumn (.int user.dept.value))
  | .deptAndChild => some (deptTreeCondition user.dept d)
  | .ownRows => some (.columnEq d.ownerColumn (.int user.id.value))

/-- The roles whose conditions count: every role with departments of its own, and of the roles
with another scope the first. `seen` holds the scopes met so far. -/
def contributing (seen : List DataScope) : List Role → List Role
  | [] => []
  | role :: rest =>
    if role.scope = .custom then role :: contributing seen rest
    else if seen.contains role.scope then contributing seen rest
    else role :: contributing (role.scope :: seen) rest

namespace User

def conditions (user : User) (d : EntityDescriptor) : List Expr :=
  (contributing [] user.roles.toList).filterMap fun role => role.condition user d

def resolve (user : User) (d : EntityDescriptor) : Resolution :=
  if user.hasFullAccess then .unrestricted
  else match Expr.disjoinAll (user.conditions d) with
    | some predicate => .restricted predicate
    | none => .denyAll

end User

/-- What a caller may see; an unknown caller sees no row. -/
def resolveFor (user : Option User) (d : EntityDescriptor) : Resolution :=
  match user with
  | some user => user.resolve d
  | none => .denyAll

def applyDataScope (existing : Option Expr) (user : Option User) (d : EntityDescriptor) :
    Option Expr :=
  match (resolveFor user d).predicate with
  | some predicate => some (Expr.restrict existing predicate)
  | none => existing

end RowGuard
