import RowGuard.Digest.Sha256
/-!
Keyed digests. Who does not know the key cannot find the digest of a message.
-/
namespace RowGuard.Digest.Hmac

/-- A key of the length of a block; longer keys stand in by their digests. -/
def blockKey (key : List UInt8) : List UInt8 :=
  let short := if key.length > 64 then Sha256.digest key else key
  short ++ List.replicate (64 - short.length) 0

def digest (key message : List UInt8) : List UInt8 :=
  let outer := (blockKey key).map (· ^^^ 0x5C)
  let inner := (blockKey key).map (· ^^^ 0x36)
  Sha256.digest (outer ++ Sha256.digest (inner ++ message))

end RowGuard.Digest.Hmac
