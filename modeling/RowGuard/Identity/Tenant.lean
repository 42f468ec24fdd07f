import RowGuard.Identity.Id
/-!
The tenant a request acts for. A request names it in a header; a header that holds no integer
counts as none.
-/
namespace RowGuard

structure ActiveTenant where
  id? : Option TenantId
  deriving DecidableEq, Repr, Inhabited

namespace ActiveTenant

def none : ActiveTenant := ⟨.none⟩

def ofHeader (value : Option String) : ActiveTenant :=
  ⟨value.bind fun s => (TenantId.read s).toOption⟩

def toJson (tenant : ActiveTenant) : Json :=
  .obj [("tenant_id", Json.option TenantId.toJson tenant.id?)]

def fields : List (Json.Decoder.Field ActiveTenant) :=
  [.omissible "tenant_id" TenantId.decode fun v _ => ⟨v⟩]

def decode : Json.Decoder ActiveTenant := Json.Decoder.record fields default

end ActiveTenant

end RowGuard
