import RowGuard.Json.Decode
/-!
Keys as the header of a token describes them. Nothing is verified with such a key, so only its form
counts: one of four kinds with the parts that make up a key of that kind, and perhaps details that
every kind may have.
-/
namespace RowGuard.Key

open Json (Decoder)

def decodeName (names : List String) : Decoder String :=
  Decoder.unitChoice fun name => names.find? (· == name)

def curves : List String := ["P-256", "P-384", "P-521", "Ed25519"]

def algorithms : List String :=
  ["HS256", "HS384", "HS512", "ES256", "ES384", "RS256", "RS384", "RS512", "PS256", "PS384",
    "PS512", "EdDSA", "RSA1_5", "RSA-OAEP", "RSA-OAEP-256"]

def part {α : Type} (name : String) (decode : Decoder α) : Decoder.Field Unit :=
  .required name decode fun _ key => key

def detail {α : Type} (name : String) (decode : Decoder α) : Decoder.Field Unit :=
  .omissible name decode fun _ key => key

def kind (name : String) (parts : List (Decoder.Field Unit)) : List (Decoder.Field Unit) :=
  part "kty" (decodeName [name]) :: parts

def kinds : List (List (Decoder.Field Unit)) :=
  [kind "EC" [part "crv" (decodeName curves), part "x" Decoder.text, part "y" Decoder.text],
    kind "RSA" [part "n" Decoder.text, part "e" Decoder.text],
    kind "oct" [part "k" Decoder.text],
    kind "OKP" [part "crv" (decodeName curves), part "x" Decoder.text]]

def details : List (Decoder.Field Unit) :=
  [detail "use" Decoder.text, detail "key_ops" (Decoder.list Decoder.text),
    detail "alg" (decodeName algorithms), detail "kid" Decoder.text, detail "x5u" Decoder.text,
    detail "x5c" (Decoder.list Decoder.text), detail "x5t" Decoder.text,
    detail "x5t#S256" Decoder.text]

/-- A key of any kind. It is read as a whole before its kind is looked for, so even a member that
has no meaning must be a value. -/
def decode : Decoder Unit
  | source, .obj members => do
    let _ ← Decoder.anything source (.obj members)
    Decoder.record details () source (.obj members)
    if kinds.any fun parts => (Decoder.record parts () source (.obj members)).isOk then return ()
    else Decoder.mismatch
  | _, d => Decoder.refuse d

end RowGuard.Key
