import RowGuard.Access.Bearer
/-!
Where the caller of a request comes from. A provider answers who the user is and whether data
scopes restrict the user's statements; an error means that the caller's roles cannot be told, which
is not the same as an unknown caller.
-/
namespace RowGuard

structure CallerIdentity where
  user : Option User := none
  dataScope : Bool := true
  deriving DecidableEq

namespace CallerIdentity

def anonymous : CallerIdentity := {}

def isAnonymous (identity : CallerIdentity) : Bool := identity == anonymous

def mayBeSuper (identity : CallerIdentity) : Bool := identity.user.any User.hasFullAccess

end CallerIdentity

structure UserProvider where
  user : Instant → Http.Headers → Guarded (Option User)
  dataScope : Instant → Http.Headers → Bool := fun _ _ => true
  identify : Instant → Http.Headers → Guarded CallerIdentity := fun now headers =>
    (user now headers).map fun found => ⟨found, dataScope now headers⟩

namespace UserProvider

def fixed (answer : Guarded (Option User)) : UserProvider := { user := fun _ _ => answer }

/-- The claims a request can rely on. A token that cannot be used counts as none. -/
def usableClaims (verify : TokenVerifier) (now : Instant) (headers : Http.Headers) :
    Option Claims :=
  (Bearer.claims verify headers now).toOption

def bearerUser (verify : TokenVerifier) (now : Instant) (headers : Http.Headers) :
    Guarded (Option User) :=
  match usableClaims verify now headers with
  | none => .ok none
  | some claims => claims.toUser.map some

def bearerDataScope (verify : TokenVerifier) (now : Instant) (headers : Http.Headers) : Bool :=
  (usableClaims verify now headers).all (·.dataScope)

def bearerIdentity (verify : TokenVerifier) (now : Instant) (headers : Http.Headers) :
    Guarded CallerIdentity :=
  match usableClaims verify now headers with
  | none => .ok .anonymous
  | some claims => claims.toUser.map fun user => ⟨some user, claims.dataScope⟩

def bearer (verify : TokenVerifier) : UserProvider :=
  { user := bearerUser verify
    dataScope := bearerDataScope verify
    identify := bearerIdentity verify }

/-- The bearer provider for people to read; it keeps its secret to itself. -/
def describeBearer : String := "JwtUserContextProvider \x7b .. \x7d"

end UserProvider

end RowGuard
