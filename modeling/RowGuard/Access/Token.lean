import RowGuard.Access.Claims
import RowGuard.Access.Key
import RowGuard.Digest.Hmac
import RowGuard.Text.Base64Url
import RowGuard.Text.Split
/-!
Signed tokens. A token has three parts with dots between them: a header that names the signature's
algorithm, the claims, and the signature of the two. The only algorithm accepted is the keyed
SHA-256 digest.
-/
namespace RowGuard.Token

open Json (Decoder Document Failure)

def algorithms : List String :=
  ["HS256", "HS384", "HS512", "ES256", "ES384", "RS256", "RS384", "RS512", "PS256", "PS384",
    "PS512", "EdDSA"]

def accepted : String := "HS256"

def typed {α : Type} (name : String) (decode : Decoder α) : Decoder.Field String :=
  .omissible name decode fun _ algorithm => algorithm

def headerFields : List (Decoder.Field String) :=
  [typed "typ" Decoder.text,
    .required "alg" (Key.decodeName algorithms) fun name _ => name,
    typed "cty" Decoder.text, typed "jku" Decoder.text, typed "jwk" Key.decode,
    typed "kid" Decoder.text, typed "x5u" Decoder.text, typed "x5c" (Decoder.list Decoder.text),
    typed "x5t" Decoder.text, typed "x5t#S256" Decoder.text]

def decodeHeader : Decoder String := Decoder.record headerFields ""

/-- A registered claim that need not be of any one type, nothing where it has no value. Reading
must end behind it all the same. -/
def decodeLoose : Decoder (Option Json) := fun source d =>
  if d.endsPast then .ok (d.value source).toOption else Decoder.malformed

/-- A registered time that need not be a number. Of the lists and objects only empty ones pass. -/
def decodeTime : Decoder (Option Json)
  | _, .arr (_ :: _) => Decoder.mismatch
  | _, .obj (_ :: _) => Decoder.mismatch
  | source, d => decodeLoose source d

def isAudience : Json → Bool
  | .str _ => true
  | .arr items => items.all fun item =>
    match item with
    | .str _ => true
    | _ => false
  | _ => false

def registeredFields : List (Decoder.Field Bool) :=
  [.defaulted "exp" decodeTime fun _ restricted => restricted,
    .defaulted "nbf" decodeTime fun _ restricted => restricted,
    .defaulted "sub" decodeLoose fun _ restricted => restricted,
    .defaulted "iss" decodeLoose fun _ restricted => restricted,
    .defaulted "aud" decodeLoose fun audience _ => audience.any isAudience]

/-- Whether a token is meant for one audience. A payload that is a list says so by nothing. -/
def decodeRegistered : Decoder Bool
  | _, .arr _ => Decoder.mismatch
  | source, d => Decoder.record registeredFields false source d

def partBytes? (part : String) : Option (List UInt8) := Text.Base64Url.decode part.toList

/-- Header, claims and signature of a token: the signature stands behind the last dot, the claims
before it behind the dot before that. -/
def parts? (token : String) : Option (String × String × String) :=
  match (Text.split '.' token).reverse with
  | signature :: payload :: next :: rest =>
    some (Text.join "." (next :: rest).reverse, payload, signature)
  | _ => none

def signature (secret : String) (header payload : String) : String :=
  let message := header ++ "." ++ payload
  String.ofList (Text.Base64Url.encode
    (Digest.Hmac.digest secret.toUTF8.data.toList message.toUTF8.data.toList))

def readHeader? (header : String) : Option String :=
  (partBytes? header).bind fun bytes => (Decoder.fromBytes decodeHeader bytes).toOption

def readClaims? (payload : String) : Option Claims := do
  let bytes ← partBytes? payload
  let claims ← (Decoder.fromBytes Claims.decode bytes).toOption
  let restricted ← (Decoder.fromBytes decodeRegistered bytes).toOption
  if restricted then none else some claims

def verify (secret token : String) : Option Claims := do
  let (header, payload, signed) ← parts? token
  let algorithm ← readHeader? header
  if algorithm == accepted && signed == signature secret header payload then readClaims? payload
  else none

end RowGuard.Token
