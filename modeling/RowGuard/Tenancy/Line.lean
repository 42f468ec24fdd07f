import RowGuard.Tenancy.Config
import RowGuard.Sql.Combine
/-!
The tenant line: in a shared schema, every statement on a tenant's table is held to the rows of the
active tenant, and every insert writes that tenant. Ignored tables, the super tenant and requests
without a tenant are left alone.
-/
namespace RowGuard.TenantLine

open Sql

def tenantLiteral (tenant : ActiveTenant) : Option Expr :=
  tenant.id?.map fun id => .int id.value

def bypasses (config : TenantConfig) (table : String) (tenant : ActiveTenant) : Bool :=
  config.ignores table || tenant.id?.any config.isSuper

def predicate (config : TenantConfig) (table : String) (shortName : Option String)
    (tenant : ActiveTenant) : Option Expr :=
  if bypasses config table tenant then none
  else (tenantLiteral tenant).map fun id =>
    .eq (.column (.qualified (shortName.getD "") config.tenantColumn)) id

def apply (config : TenantConfig) (existing : Option Expr) (table : String)
    (shortName : Option String) (tenant : ActiveTenant) : Option Expr :=
  match existing, predicate config table shortName tenant with
  | some filter, some p => some (Expr.conjoin filter p)
  | some filter, none => some filter
  | none, p => p

/-- The parameters of an insert with the tenant filled in, absent where nothing is to be filled
in: a value other than null stays. -/
def fill (config : TenantConfig) (params : List (String × Json)) (table : String)
    (tenant : ActiveTenant) : Option (List (String × Json)) :=
  match tenant.id? with
  | none => none
  | some id =>
    if bypasses config table tenant then none
    else if (Table.find? config.tenantColumn params).any (!·.isNull) then none
    else some (Table.insert config.tenantColumn id.toJson params)

end RowGuard.TenantLine
