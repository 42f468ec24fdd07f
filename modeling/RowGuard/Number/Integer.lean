/-!
64-bit integers in decimal, signed unless said otherwise. Reading takes one optional sign and at
least one digit and stops at the first character that cannot go on; printing writes no sign but a
minus and no leading zero.
-/
namespace RowGuard.Integer

inductive ReadError where
  | empty
  | invalidDigit
  | tooLarge
  | tooSmall
  deriving DecidableEq, Repr

def ReadError.message : ReadError → String
  | .empty => "cannot parse integer from empty string"
  | .invalidDigit => "invalid digit found in string"
  | .tooLarge => "number too large to fit in target type"
  | .tooSmall => "number too small to fit in target type"

def digit? (c : Char) : Option Nat :=
  if '0' ≤ c ∧ c ≤ '9' then some (c.toNat - '0'.toNat) else none

def hexDigit? (c : Char) : Option Nat :=
  if 'a' ≤ c ∧ c ≤ 'f' then some (c.toNat - 'a'.toNat + 10)
  else if 'A' ≤ c ∧ c ≤ 'F' then some (c.toNat - 'A'.toNat + 10)
  else digit? c

def ofDigits (base : Nat) (ds : List Nat) : Nat := ds.foldl (fun n d => base * n + d) 0

/-- The number written in a base of at most sixteen. No characters are zero. -/
def ofChars? (base : Nat) (cs : List Char) : Option Nat :=
  (cs.mapM fun c => (hexDigit? c).filter (· < base)).map (ofDigits base)

def maximum : Int := 9223372036854775807

def minimum : Int := -9223372036854775808

/-- Appends digits to `acc`, away from zero on the side of the sign. The first character that is
no digit, or the first digit that leaves the range, decides. -/
def readDigits (negative : Bool) (acc : Int) : List Char → Except ReadError Int
  | [] => .ok acc
  | c :: rest =>
    match digit? c with
    | none => .error .invalidDigit
    | some d =>
      let next := if negative then acc * 10 - d else acc * 10 + d
      if maximum < next then .error .tooLarge
      else if next < minimum then .error .tooSmall
      else readDigits negative next rest

def readChars : List Char → Except ReadError Int
  | [] => .error .empty
  | ['+'] => .error .invalidDigit
  | ['-'] => .error .invalidDigit
  | '+' :: rest => readDigits false 0 rest
  | '-' :: rest => readDigits true 0 rest
  | cs => readDigits false 0 cs

/-- The integer a text denotes, signs and leading zeros allowed, white space not. -/
def read (s : String) : Except ReadError Int64 :=
  (readChars s.toList).map Int64.ofInt

def read? (s : String) : Option Int64 := (read s).toOption

def unsignedMaximum : Nat := 18446744073709551615

def readUnsignedDigits (acc : Nat) : List Char → Except ReadError Nat
  | [] => .ok acc
  | c :: rest =>
    match digit? c with
    | none => .error .invalidDigit
    | some d =>
      if unsignedMaximum < acc * 10 + d then .error .tooLarge
      else readUnsignedDigits (acc * 10 + d) rest

/-- The unsigned integer a text denotes. A minus is no digit of it. -/
def readUnsigned (s : String) : Except ReadError Nat :=
  match s.toList with
  | [] => .error .empty
  | ['+'] => .error .invalidDigit
  | '+' :: rest => readUnsignedDigits 0 rest
  | cs => readUnsignedDigits 0 cs

def digits (n : Nat) : List Char :=
  if n < 10 then [Nat.digitChar n] else digits (n / 10) ++ [Nat.digitChar (n % 10)]

def chars (i : Int) : List Char :=
  if i < 0 then '-' :: digits i.natAbs else digits i.natAbs

def text (i : Int) : String := String.ofList (chars i)

end RowGuard.Integer
