import RowGuard.DataSource.Router
import RowGuard.Tenancy.Config
/-!
Routers as an environment describes them: one variable holds the table of the datasources of all
tenants, another the datasource for work without tenant.
-/
namespace RowGuard

open Json (Decoder)

def DataSource.Catalog.read (text : String) : Guarded DataSource.Catalog :=
  match Decoder.fromText DataSource.Catalog.decode text with
  | .ok catalog => .ok catalog
  | .error e => .error (.invalidConfig ("tenant datasources: " ++ e.message))

namespace Router

variable {P : Type}

def defaultPoolOf (factory : PoolFactory P) (lookup : String → Option String) :
    Guarded (Option P) :=
  match lookup "ROWGATE_DEFAULT_DATASOURCE" with
  | none => .ok none
  | some text =>
    match Decoder.fromText DataSource.decode text with
    | .ok source => (factory 0 source).map some
    | .error e => .error (.invalidConfig ("default datasource: " ++ e.message))

/-- The router the environment describes. Only isolation by datasource needs one. -/
def ofEnvironment (config : GuardConfig) (factory : PoolFactory P)
    (lookup : String → Option String) : Guarded (Option (Router P)) :=
  match config.tenant.isolation with
  | .line => .ok none
  | .dataSource => do
    let catalog ← DataSource.Catalog.read
      ((lookup "ROWGATE_TENANT_DATASOURCES").getD "\x7b\x7d")
    let defaultPool ← defaultPoolOf factory lookup
    return some { catalog, defaultPool }

end Router

end RowGuard
