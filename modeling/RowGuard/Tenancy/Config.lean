import RowGuard.Identity.Tenant
import RowGuard.Tenancy.TableName
/-!
How the guard is configured. Every setting has a default, and a setting of the environment that
cannot be read leaves the default in place.
-/
namespace RowGuard

inductive IsolationLevel where
  /-- One schema for all; statements are restricted by a tenant column. -/
  | line
  /-- A datasource per tenant; statements are routed. -/
  | dataSource
  deriving DecidableEq, Repr, Inhabited

namespace IsolationLevel

def name : IsolationLevel → String
  | line => "LINE"
  | dataSource => "DATASOURCE"

def ofName? (s : String) : Option IsolationLevel :=
  [line, dataSource].find? fun level => s == level.name

/-- Reads a name in any case with white space around it. -/
def read (s : String) : Guarded IsolationLevel :=
  let shown := Text.upper (Text.trim s)
  match ofName? shown with
  | some level => .ok level
  | none =>
    .error (.invalidConfig ("isolation level must be LINE or DATASOURCE, got '" ++ shown ++ "'"))

def toJson (level : IsolationLevel) : Json := .str level.name

def decode : Json.Decoder IsolationLevel := Json.Decoder.unitChoice ofName?

end IsolationLevel

structure TenantConfig where
  isolation : IsolationLevel := .line
  tenantColumn : String := "tenant_id"
  tenantHeader : String := "X-Tenant-Id"
  /-- The tenant whose statements are not restricted. -/
  superTenant : TenantId := ⟨-1⟩
  /-- Tables without a tenant column. -/
  ignoredTables : OrderedSet String := .empty
  deriving DecidableEq

namespace TenantConfig

def standard : TenantConfig := {}

def ignores (config : TenantConfig) (table : String) : Bool :=
  config.ignoredTables.toList.any fun t => TableName.normal t == TableName.normal table

def isSuper (config : TenantConfig) (id : TenantId) : Bool := id == config.superTenant

def toJson (config : TenantConfig) : Json :=
  .obj [("isolation_level", config.isolation.toJson),
    ("tenant_id_column", .str config.tenantColumn), ("tenant_id_header", .str config.tenantHeader),
    ("super_tenant_id", config.superTenant.toJson),
    ("ignore_tables", Json.list Json.str config.ignoredTables.toList)]

def fields : List (Json.Decoder.Field TenantConfig) :=
  [.defaulted "isolation_level" IsolationLevel.decode fun v c => { c with isolation := v },
    .defaulted "tenant_id_column" Json.Decoder.text fun v c => { c with tenantColumn := v },
    .defaulted "tenant_id_header" Json.Decoder.text fun v c => { c with tenantHeader := v },
    .defaulted "super_tenant_id" TenantId.decode fun v c => { c with superTenant := v },
    .defaulted "ignore_tables" (Json.Decoder.set Json.Decoder.text)
      fun v c => { c with ignoredTables := v }]

def decode : Json.Decoder TenantConfig := Json.Decoder.record fields standard

end TenantConfig

structure PermissionConfig where
  enabled : Bool := true
  deriving DecidableEq, Repr

namespace PermissionConfig

def toJson (config : PermissionConfig) : Json := .obj [("enabled", .bool config.enabled)]

def decode : Json.Decoder PermissionConfig :=
  Json.Decoder.record [.defaulted "enabled" Json.Decoder.boolean fun v _ => ⟨v⟩] {}

end PermissionConfig

structure GuardConfig where
  tenant : TenantConfig := {}
  permission : PermissionConfig := {}
  deriving DecidableEq

namespace GuardConfig

def standard : GuardConfig := {}

def toJson (config : GuardConfig) : Json :=
  .obj [("tenant", config.tenant.toJson), ("data_permission", config.permission.toJson)]

def fields : List (Json.Decoder.Field GuardConfig) :=
  [.defaulted "tenant" TenantConfig.decode fun v c => { c with tenant := v },
    .defaulted "data_permission" PermissionConfig.decode fun v c => { c with permission := v }]

def decode : Json.Decoder GuardConfig := Json.Decoder.record fields standard

/-- The trimmed value of a setting, absent where it is blank. -/
def setting (lookup : String → Option String) (name : String) : Option String :=
  (lookup name).bind fun raw => if Text.isBlankText raw then none else some (Text.trim raw)

def switch? (s : String) : Option Bool :=
  let word := Text.lower (Text.trim s)
  if ["true", "1", "yes", "on"].contains word then some true
  else if ["false", "0", "no", "off"].contains word then some false
  else none

/-- The names of a comma-separated list, blank ones left out. -/
def tableList (raw : String) : List String :=
  ((Text.split ',' raw).map Text.trim).filter fun table => !table.isEmpty

def ofEnvironment (lookup : String → Option String) : GuardConfig :=
  let base := standard.tenant
  { tenant :=
      { isolation :=
          ((lookup "ROWGATE_ISOLATION_LEVEL").bind fun raw =>
            (IsolationLevel.read raw).toOption).getD base.isolation
        tenantColumn := (setting lookup "ROWGATE_TENANT_ID_COLUMN").getD base.tenantColumn
        tenantHeader := (setting lookup "ROWGATE_TENANT_ID_HEADER").getD base.tenantHeader
        superTenant :=
          ((lookup "ROWGATE_SUPER_TENANT_ID").bind fun raw =>
            (TenantId.read raw).toOption).getD base.superTenant
        ignoredTables :=
          ((lookup "ROWGATE_IGNORE_TABLES").map fun raw =>
            OrderedSet.ofList (tableList raw)).getD base.ignoredTables }
    permission :=
      { enabled :=
          ((lookup "ROWGATE_DATA_PERMISSION_ENABLED").bind switch?).getD
            standard.permission.enabled } }

end GuardConfig

end RowGuard
