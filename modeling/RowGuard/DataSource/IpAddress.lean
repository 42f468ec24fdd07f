import RowGuard.Number.Integer
import RowGuard.Text.Quoted
import RowGuard.Text.Split
/-!
Addresses of machines as numbers. An IPv4 address has 32 bits and is written as bytes with dots
between them; an IPv6 address has eight pieces of 16 bits with colons between them, and two colons
in a row stand for pieces that are zero.
-/
namespace RowGuard

namespace Ipv4

/-- A part of an IPv4 address: hexadecimal behind `0x`, octal behind another zero. -/
def part? : List Char → Option Nat
  | [] => none
  | '0' :: 'x' :: rest => Integer.ofChars? 16 rest
  | '0' :: 'X' :: rest => Integer.ofChars? 16 rest
  | '0' :: c :: rest => Integer.ofChars? 8 (c :: rest)
  | cs => Integer.ofChars? 10 cs

def parts (s : String) : List String :=
  match (Text.split '.' s).reverse with
  | "" :: rest => rest.reverse
  | pieces => pieces.reverse

def endsInNumber (s : String) : Bool :=
  match (parts s).getLast? with
  | none => false
  | some last =>
    (!last.isEmpty && last.toList.all Char.isDigit) || (part? last.toList).isSome

/-- The address of at most four parts, the last of which fills the bytes that are left. -/
def ofText? (s : String) : Option Nat := do
  let all ← (parts s).mapM fun part => part? part.toList
  let last ← all.getLast?
  let front := all.dropLast
  if front.length < 4 ∧ front.all (· < 256) ∧ last < Nat.pow 256 (4 - front.length) then
    some (Integer.ofDigits 256 front * Nat.pow 256 (4 - front.length) + last)
  else none

def text (n : Nat) : String :=
  Text.join "." ([n / 16777216, n / 65536 % 256, n / 256 % 256, n % 256].map
    fun byte : Nat => Integer.text byte)

end Ipv4

namespace Ipv6

def piece? (cs : List Char) : Option Nat :=
  if 1 ≤ cs.length ∧ cs.length ≤ 4 then Integer.ofChars? 16 cs else none

def byte? (cs : List Char) : Option Nat :=
  match cs with
  | [] => none
  | '0' :: _ :: _ => none
  | cs => (Integer.ofChars? 10 cs).filter (· < 256)

def embedded? (s : String) : Option (List Nat) := do
  match ← (Text.split '.' s).mapM fun part => byte? part.toList with
  | [a, b, c, d] => some [256 * a + b, 256 * c + d]
  | _ => none

/-- Pieces with colons between them. `last` reads the last one. -/
def piecesOf? (last : String → Option (List Nat)) : List String → Option (List Nat)
  | [] => some []
  | [s] => last s
  | s :: rest => do
    let first ← piece? s.toList
    let others ← piecesOf? last rest
    return first :: others

def plainPiece? (s : String) : Option (List Nat) := (piece? s.toList).map ([·])

def lastPiece? (s : String) : Option (List Nat) :=
  if s.toList.contains '.' then embedded? s else plainPiece? s

def piecesIn? (last : String → Option (List Nat)) (cs : List Char) : Option (List Nat) :=
  if cs.isEmpty then some [] else piecesOf? last (Text.split ':' (String.ofList cs))

def splitGap : List Char → Option (List Char × List Char)
  | ':' :: ':' :: rest => some ([], rest)
  | c :: rest => (splitGap rest).map fun (before, behind) => (c :: before, behind)
  | [] => none

/-- The eight pieces of an address. Two colons in a row stand for as many zeros as are missing, at
least one. -/
def ofChars? (cs : List Char) : Option (List Nat) :=
  match splitGap cs with
  | none => (piecesIn? lastPiece? cs).filter (·.length == 8)
  | some (before, behind) => do
    let front ← piecesIn? plainPiece? before
    let back ← piecesIn? lastPiece? behind
    let count := front.length + back.length
    if count < 8 then some (front ++ List.replicate (8 - count) 0 ++ back) else none

def longestGap (pieces : List Nat) : Nat × Nat :=
  (List.range pieces.length).foldl (fun best start =>
    let run := ((pieces.drop start).takeWhile (· == 0)).length
    if best.2 < run then (start, run) else best) (0, 0)

def colonText (pieces : List Nat) : String := Text.join ":" (pieces.map Text.lowerHex)

/-- An address with its longest run of zeros left out, unless that is a single zero. -/
def text (pieces : List Nat) : String :=
  let (start, run) := longestGap pieces
  if run < 2 then colonText pieces
  else colonText (pieces.take start) ++ "::" ++ colonText (pieces.drop (start + run))

end Ipv6

end RowGuard
