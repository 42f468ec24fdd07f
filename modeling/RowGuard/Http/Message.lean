import RowGuard.Error
import RowGuard.Http.Header
import RowGuard.Http.MediaType
import RowGuard.Json.Decode
/-!
Requests and responses. A body that is no JSON is not told apart from an empty one.
-/
namespace RowGuard.Http

structure Request where
  method : String
  /-- The path, perhaps with a query behind it and with a scheme and a host in front. -/
  target : String
  headers : Headers := []
  body : String := ""

structure Response where
  status : Nat
  body : Option Json := none

namespace Request

def isSchemeChar (c : Char) : Bool :=
  c.isAlphanum || c == '+' || c == '-' || c == '.'

/-- The path of a target. Where a host has no path behind it, its root is meant. -/
def path (request : Request) : String :=
  let cs := request.target.toList.takeWhile fun c => c != '?' && c != '#'
  match cs.dropWhile isSchemeChar with
  | ':' :: '/' :: '/' :: rest =>
    let behind := rest.dropWhile (· != '/')
    if behind.isEmpty then "/" else String.ofList behind
  | _ => String.ofList cs

def sendsJson (request : Request) : Bool :=
  ((request.headers.text? "content-type").bind MediaType.read?).any MediaType.isJson

end Request

namespace Response

def ok (body : Json) : Response := ⟨200, some body⟩

def failure (status : Nat) (code message : String) : Response :=
  ⟨status, some (.obj [("error", .str code), ("message", .str message)])⟩

/-- The response to an error: a fault of the server where the configuration is to blame. -/
def ofError (e : GuardError) : Response :=
  failure (if e.isConfiguration then 500 else 400) e.code e.message

def bare (response : Response) : Response := { response with body := none }

end Response

def decodeBody {α : Type} (decode : Json.Decoder α) (request : Request) : Except Response α :=
  if request.sendsJson then
    match Json.Decoder.fromFront decode request.body with
    | .ok a => .ok a
    | .error .malformed => .error ⟨400, none⟩
    | .error .mismatch => .error ⟨422, none⟩
  else .error ⟨415, none⟩

end RowGuard.Http
