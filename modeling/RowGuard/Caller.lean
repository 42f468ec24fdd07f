import RowGuard.Identity.User
import RowGuard.Identity.Tenant
/-!
Who is behind a request.
-/
namespace RowGuard

structure Caller where
  tenant : ActiveTenant
  user : Option User := none
  dataScope : Bool := true
  deriving DecidableEq, Inhabited

end RowGuard
