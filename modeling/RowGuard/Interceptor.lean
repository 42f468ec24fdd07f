import RowGuard.Access.Resolution
import RowGuard.Caller
import RowGuard.Statement
import RowGuard.Tenancy.Line
/-!
What the guard does to a statement before it runs: first the data scope of the caller, then the
tenant line, so the tenant narrows whatever the data scope allows.
-/
namespace RowGuard.Interceptor

def scopeDescriptor (config : GuardConfig) (caller : Caller) (s : Statement) :
    Option EntityDescriptor :=
  if s.kind ≠ .insert ∧ config.permission.enabled ∧ caller.dataScope then s.descriptor else none

def applyScope (config : GuardConfig) (caller : Caller) (s : Statement) : Statement :=
  match scopeDescriptor config caller s with
  | some d => { s with filter := applyDataScope s.filter caller.user d }
  | none => s

/-- Whether the tenant line is in force for a statement. `suspended` lifts it for a whole task. -/
def lineApplies (config : GuardConfig) (suspended : Bool) (s : Statement) : Bool :=
  config.tenant.isolation = .line && !s.ignoreTenantLine && !suspended

def applyLine (config : GuardConfig) (suspended : Bool) (caller : Caller) (s : Statement) :
    Statement :=
  if lineApplies config suspended s then
    if s.kind = .insert then
      let filled := TenantLine.fill config.tenant s.params s.table caller.tenant
      { s with params := filled.getD s.params }
    else
      { s with filter := TenantLine.apply config.tenant s.filter s.table s.shortName caller.tenant }
  else s

def intercept (config : GuardConfig) (suspended : Bool) (caller : Caller) (s : Statement) :
    Statement :=
  applyLine config suspended caller (applyScope config caller s)

end RowGuard.Interceptor
