/-!
Bytes as text in the alphabet of 64 characters that need no escapes in a URL. Three bytes make four
characters; a shorter rest makes two or three, and nothing fills them up.
-/
namespace RowGuard.Text.Base64Url

def alphabet : List Char :=
  "ABCDEFGHIJKLMNOPQRSTUVWXYZabcdefghijklmnopqrstuvwxyz0123456789-_".toList

def charOf (value : Nat) : Char := alphabet.getD value 'A'

def valueOf? (c : Char) : Option Nat := alphabet.idxOf? c

def encode : List UInt8 → List Char
  | a :: b :: c :: rest =>
    let n := (a.toNat * 256 + b.toNat) * 256 + c.toNat
    charOf (n / 262144) :: charOf (n / 4096 % 64) :: charOf (n / 64 % 64) :: charOf (n % 64) ::
      encode rest
  | [a, b] =>
    let n := (a.toNat * 256 + b.toNat) * 4
    [charOf (n / 4096), charOf (n / 64 % 64), charOf (n % 64)]
  | [a] =>
    let n := a.toNat * 16
    [charOf (n / 64), charOf (n % 64)]
  | [] => []

/-- The bytes of a list of six-bit values; the bits that fill the last character have to be zero. -/
def bytes? : List Nat → Option (List UInt8)
  | a :: b :: c :: d :: rest =>
    let n := ((a * 64 + b) * 64 + c) * 64 + d
    (bytes? rest).map fun others =>
      UInt8.ofNat (n / 65536) :: UInt8.ofNat (n / 256) :: UInt8.ofNat n :: others
  | [a, b, c] =>
    let n := (a * 64 + b) * 64 + c
    if n % 4 = 0 then some [UInt8.ofNat (n / 1024), UInt8.ofNat (n / 4)] else none
  | [a, b] =>
    let n := a * 64 + b
    if n % 16 = 0 then some [UInt8.ofNat (n / 16)] else none
  | [_] => none
  | [] => some []

def decode (cs : List Char) : Option (List UInt8) := (cs.mapM valueOf?).bind bytes?

end RowGuard.Text.Base64Url
