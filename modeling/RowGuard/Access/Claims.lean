import RowGuard.Identity.User
import RowGuard.Time.Reader
/-!
What a verified token says about its bearer, and when it says so. The scopes of the roles stay as
they were written until a user is made of them.
-/
namespace RowGuard

structure RoleClaim where
  role : RoleId
  scope : String
  deriving DecidableEq, Repr, Inhabited

structure Claims where
  subject : UserId
  dept : DeptId
  roles : List RoleClaim := []
  /-- When off, no data scope restricts the bearer's statements. -/
  dataScope : Bool := true
  issuedAt : Instant
  expiresAt : Instant
  deriving DecidableEq, Repr

namespace RoleClaim

def ofRole (role : Role) : RoleClaim := ⟨role.id, role.scope.name⟩

def toRole (claim : RoleClaim) : Guarded Role := Role.read claim.role claim.scope

def toJson (claim : RoleClaim) : Json :=
  .obj [("role_id", claim.role.toJson), ("data_scope", .str claim.scope)]

def fields : List (Json.Decoder.Field RoleClaim) :=
  [.required "role_id" RoleId.decode fun v c => { c with role := v },
    .required "data_scope" Json.Decoder.text fun v c => { c with scope := v }]

def decode : Json.Decoder RoleClaim := Json.Decoder.record fields default

end RoleClaim

def Instant.decode : Json.Decoder Instant := Json.Decoder.check Instant.read? Json.Decoder.text

def Instant.toJson (t : Instant) : Json := .str t.text

inductive WindowError where
  | expired
  | notYetValid
  | invalidWindow
  deriving DecidableEq, Repr

def WindowError.message : WindowError → String
  | .expired => "token has expired"
  | .notYetValid => "token not yet valid (issued_at is in the future)"
  | .invalidWindow => "invalid token time window (expires_at <= issued_at)"

namespace Claims

/-- Converts roles in their order; the first unknown scope is the error. -/
def readRoles : List RoleClaim → Guarded (List Role)
  | [] => .ok []
  | claim :: rest => do
    let role ← claim.toRole
    let others ← readRoles rest
    return role :: others

def toUser (claims : Claims) : Guarded User := do
  let roles ← readRoles claims.roles
  return (User.new claims.subject claims.dept).addRoles roles

/-- Whether the claims hold at `now`: from the time of issue until just before expiry. -/
def check (claims : Claims) (now : Instant) : Except WindowError Unit :=
  if !claims.issuedAt.before claims.expiresAt then .error .invalidWindow
  else if now.before claims.issuedAt then .error .notYetValid
  else if !now.before claims.expiresAt then .error .expired
  else .ok ()

def toJson (claims : Claims) : Json :=
  .obj [("sub", claims.subject.toJson), ("dept_id", claims.dept.toJson),
    ("roles", Json.list RoleClaim.toJson claims.roles), ("data_scope", .bool claims.dataScope),
    ("issued_at", claims.issuedAt.toJson), ("expires_at", claims.expiresAt.toJson)]

def fields : List (Json.Decoder.Field Claims) :=
  [.required "sub" UserId.decode fun v c => { c with subject := v },
    .required "dept_id" DeptId.decode fun v c => { c with dept := v },
    .defaulted "roles" (Json.Decoder.list RoleClaim.decode) fun v c => { c with roles := v },
    .defaulted "data_scope" Json.Decoder.boolean fun v c => { c with dataScope := v },
    .required "issued_at" Instant.decode fun v c => { c with issuedAt := v },
    .required "expires_at" Instant.decode fun v c => { c with expiresAt := v }]

def decode : Json.Decoder Claims :=
  Json.Decoder.record fields
    { subject := default, dept := default, issuedAt := default, expiresAt := default }

end Claims

end RowGuard
