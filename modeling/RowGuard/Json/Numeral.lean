import RowGuard.Json.Document
import RowGuard.Number.Integer
/-!
The value of a JSON number. A number without fraction and exponent is an integer while it fits
into 64 bits, signed or unsigned. Every other number is floating-point: as many leading digits as
fit into 64 unsigned bits make a significand, which is scaled once by a power of ten.
-/
namespace RowGuard.Json

structure Numeral where
  negative : Bool
  whole : List Nat
  fraction : Option (List Nat)
  exponent : Option (Bool × List Nat)

namespace Numeral

/-- Extends a significand by digits while it fits, and says how many it took. -/
def extend (significand : Nat) : List Nat → Nat × Nat
  | [] => (significand, 0)
  | d :: rest =>
    if Integer.unsignedMaximum < significand * 10 + d then (significand, 0)
    else
      let (all, taken) := extend (significand * 10 + d) rest
      (all, taken + 1)

/-- Divides by `10 ^ k` in steps that a floating-point power of ten can express. -/
def scaleDown (k : Nat) (x : Float) : Float :=
  if k ≤ 308 then x / Float.ofScientific 1 false k
  else if x == 0.0 then x
  else scaleDown (k - 308) (x / Float.ofScientific 1 false 308)
termination_by k
decreasing_by omega

def scale (significand : Nat) (exponent : Int) : Except Fault Float :=
  let x := Float.ofNat significand
  if exponent < 0 then .ok (scaleDown exponent.natAbs x)
  else if exponent ≤ 308 then
    let scaled := x * Float.ofScientific 1 false exponent.toNat
    if scaled.isInf then .error .past else .ok scaled
  else if x == 0.0 then .ok x
  else .error .past

def exponentLimit : Nat := 2147483648

/-- Where reading an exponent stops that is too large: at the first digit that makes it so. -/
def overlong (digits : List Nat) : Fault :=
  if Integer.ofDigits 10 digits.dropLast < exponentLimit then .past else .inside

def magnitude (n : Numeral) : Except Fault Float :=
  let (whole, taken) := extend 0 n.whole
  let (significand, behind) := extend whole (n.fraction.getD [])
  let start : Int := ((n.whole.length - taken : Nat) : Int) - behind
  match n.exponent with
  | none => scale significand start
  | some (down, digits) =>
    let e := Integer.ofDigits 10 digits
    if exponentLimit ≤ e then
      if significand ≠ 0 ∧ !down then .error (overlong digits) else .ok 0.0
    else scale significand (if down then start - e else start + e)

def value (n : Numeral) : Document :=
  let floating : Document :=
    match n.magnitude with
    | .error kind => .fault kind
    | .ok x => .float (if n.negative then -x else x)
  match n.fraction, n.exponent with
  | none, none =>
    let whole := Integer.ofDigits 10 n.whole
    if n.negative then
      if whole ≠ 0 ∧ (whole : Int) ≤ -Integer.minimum then .int (-whole) else floating
    else if whole ≤ Integer.unsignedMaximum then .int whole
    else floating
  | _, _ => floating

end Numeral

end RowGuard.Json
