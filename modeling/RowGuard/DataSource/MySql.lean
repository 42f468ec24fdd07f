import RowGuard.DataSource.Address
import RowGuard.DataSource.Router
import RowGuard.Text.Case
import RowGuard.Text.Split
/-!
Pools of connections to MySQL servers. A pool is only described here; its connections are opened
when they are needed.
-/
namespace RowGuard

structure MySqlPool where
  host : String
  tcpPort : Nat
  username : String
  password : String
  database : Option String
  maxConnections : Nat
  /-- How long a caller waits for a connection. -/
  timeoutMillis : Nat
  deriving DecidableEq, Repr

structure PoolSettings where
  maxConnections : Nat := 10
  timeoutMillis : Nat := 5000
  deriving DecidableEq, Repr

namespace MySqlPool

def supports (driver : String) : Bool := Text.occursIn "mysql".toList (Text.lower driver).toList

def bareUrl (url : String) : String :=
  match url.toList with
  | 'j' :: 'd' :: 'b' :: 'c' :: ':' :: rest => String.ofList rest
  | _ => url

inductive ConfigurationError where
  | address (reason : AddressError)
  | encoding (reason : Text.Utf8.Fault)
  | tlsMode (value : String)
  | number (reason : Integer.ReadError)
  deriving DecidableEq, Repr

def ConfigurationError.message (e : ConfigurationError) : String :=
  "error with configuration: " ++
    match e with
    | .address reason => reason.message
    | .encoding reason => reason.message
    | .tlsMode value =>
      "error with configuration: unknown value " ++ Text.quoted value ++ " for \x60ssl_mode\x60"
    | .number reason => reason.message

def decodePart (part : String) : Except ConfigurationError String :=
  (Text.Percent.decode part).mapError .encoding

def databaseOf (path : String) : Except ConfigurationError (Option String) :=
  let name := path.toList.dropWhile (· == '/')
  if name.isEmpty then .ok none else (decodePart (String.ofList name)).map some

def tlsModes : List String := ["disabled", "preferred", "required", "verify_ca", "verify_identity"]

/-- A setting in a query. Settings of other names are left to the connections. -/
def checkSetting (setting : String × String) : Except ConfigurationError Unit :=
  let (name, value) := setting
  if name == "sslmode" || name == "ssl-mode" then
    if tlsModes.contains (Text.lower value) then .ok () else .error (.tlsMode value)
  else if name == "statement-cache-capacity" then
    ((Integer.readUnsigned value).map fun _ => ()).mapError .number
  else .ok ()

/-- The address of a URL and the database it names. All parts have to be texts, also the login,
which nobody asks for. -/
def readUrl (url : String) : Except ConfigurationError (Address × Option String) := do
  let address ← (Address.read url).mapError .address
  let _ ← decodePart address.login.username
  let _ ← decodePart (address.login.password.getD "")
  let database ← databaseOf address.path
  address.settings.forM checkSetting
  return (address, database)

/-- The pool of a datasource. Its login is the one of the datasource, whatever the URL says. -/
def create (settings : PoolSettings) (d : DataSource) : Guarded MySqlPool :=
  if supports d.driver then
    match readUrl (bareUrl d.url) with
    | .error e => .error (.dataSourceCreation d.poolName e.message)
    | .ok (address, database) =>
      .ok { host := (address.host.map Host.text).getD "localhost"
            tcpPort := address.tcpPort.getD 3306
            username := d.username
            password := d.password
            database
            maxConnections := d.maxConnections.getD settings.maxConnections
            timeoutMillis := settings.timeoutMillis }
  else
    .error (.invalidConfig ("pool '" ++ d.poolName ++ "': unsupported driver '" ++ d.driver ++ "'"))

def factory (settings : PoolSettings) : PoolFactory MySqlPool := fun _ => create settings

end MySqlPool

end RowGuard
