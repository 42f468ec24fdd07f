import RowGuard.Json.Decode
import RowGuard.Number.Integer
import RowGuard.Text.Quoted
/-!
How to reach the datasource of one tenant, and the table of all of them.
-/
namespace RowGuard

structure DataSource where
  poolName : String
  driver : String
  url : String
  username : String
  password : String
  maxConnections : Option Nat := none
  deriving DecidableEq, Repr, Inhabited

namespace DataSource

def toJson (d : DataSource) : Json :=
  .obj ([("pool_name", .str d.poolName), ("driver", .str d.driver), ("url", .str d.url),
    ("username", .str d.username), ("password", .str d.password)] ++
    Json.optional "max_connections" (fun n => .int n) d.maxConnections)

def describe (d : DataSource) : String :=
  let limit := match d.maxConnections with
    | some n => "Some(" ++ Integer.text n ++ ")"
    | none => "None"
  "TenantDataSourceDescriptor \x7b pool_name: " ++ Text.quoted d.poolName ++
    ", driver: " ++ Text.quoted d.driver ++ ", url: " ++ Text.quoted d.url ++
    ", username: " ++ Text.quoted d.username ++ ", password: " ++ Text.quoted "<redacted>" ++
    ", max_connections: " ++ limit ++ " \x7d"

def fields : List (Json.Decoder.Field DataSource) :=
  [.required "pool_name" Json.Decoder.text fun v d => { d with poolName := v },
    .renamed "driver" "driver_class_name" Json.Decoder.text fun v d => { d with driver := v },
    .required "url" Json.Decoder.text fun v d => { d with url := v },
    .required "username" Json.Decoder.text fun v d => { d with username := v },
    .required "password" Json.Decoder.text fun v d => { d with password := v },
    .defaulted "max_connections" (Json.Decoder.nullable Json.Decoder.nat32)
      fun v d => { d with maxConnections := v }]

def decode : Json.Decoder DataSource := Json.Decoder.record fields default

abbrev Catalog := Table DataSource

/-- A catalog from an object of datasources; of several with one key the last stays. -/
def Catalog.decode : Json.Decoder Catalog :=
  Json.Decoder.map Table.ofList (Json.Decoder.members DataSource.decode)

end DataSource

end RowGuard
