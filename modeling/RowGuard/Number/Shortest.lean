import RowGuard.Number.Integer
/-!
The shortest decimal text of a binary floating-point number: the fewest digits that read back as
the same number and, among those, the nearest to it. All comparisons are exact, over natural
numbers.
-/
namespace RowGuard.Number

/-- A finite positive number as `significand * 2 ^ exponent`. `halved` marks the significands at
the lower end of a binade, where the gap below is half the gap above. -/
structure Binary where
  significand : Nat
  exponent : Int
  halved : Bool

def Binary.ofBits (bits : UInt64) : Binary :=
  let fraction : Nat := bits.toNat % Nat.pow 2 52
  let field : Nat := bits.toNat / Nat.pow 2 52 % 2048
  if field = 0 then ⟨fraction, -1074, false⟩
  else ⟨fraction + Nat.pow 2 52, (field : Int) - 1075, fraction == 0 && field != 1⟩

/-- The numbers that round to a given one: `low / scale` to `high / scale`, both ends included
exactly when the significand is even. The number itself is `middle / scale`. -/
structure Interval where
  low : Nat
  middle : Nat
  high : Nat
  scale : Nat
  closed : Bool

def Binary.interval (b : Binary) : Interval :=
  let up := Nat.pow 2 (b.exponent - 2).toNat
  { low := (4 * b.significand - (if b.halved then 1 else 2)) * up
    middle := 4 * b.significand * up
    high := (4 * b.significand + 2) * up
    scale := Nat.pow 2 (2 - b.exponent).toNat
    closed := b.significand % 2 == 0 }

def Interval.admits (i : Interval) (point : Nat) : Bool :=
  if i.closed then i.low ≤ point && point ≤ i.high else i.low < point && point < i.high

def digitCount (n : Nat) : Nat := (Integer.digits n).length

/-- The least `j ≤ limit` with `10 ^ j * numerator ≥ denominator`, counted from `j`. -/
def firstPower (numerator denominator : Nat) : Nat → Nat → Nat
  | 0, j => j
  | limit + 1, j =>
    if denominator ≤ Nat.pow 10 j * numerator then j
    else firstPower numerator denominator limit (j + 1)

def Interval.leading (i : Interval) : Int :=
  if i.scale ≤ i.middle then (digitCount (i.middle / i.scale) : Int) - 1
  else - (firstPower i.middle i.scale 400 1 : Int)

/-- Decimal digits `d₁ d₂ …` with the value `d₁.d₂… * 10 ^ exponent`. -/
structure Decimal where
  digits : List Char
  exponent : Int

/-- The point of the grid of `count` digits that reads back, the nearer one where both neighbours
of the number do and the even one on a tie. -/
def Interval.onGrid (i : Interval) (count : Nat) : Option Decimal :=
  let unit := i.leading - (count : Int) + 1
  let down := Nat.pow 10 (-unit).toNat
  let step := i.scale * Nat.pow 10 unit.toNat
  let wide : Interval :=
    { i with low := i.low * down, middle := i.middle * down, high := i.high * down }
  let below := wide.middle / step
  let above := below + 1
  let chosen : Option Nat :=
    match wide.admits (below * step), wide.admits (above * step) with
    | false, false => none
    | true, false => some below
    | false, true => some above
    | true, true =>
      let down := wide.middle - below * step
      let up := above * step - wide.middle
      if down < up then some below
      else if up < down then some above
      else some (if below % 2 = 0 then below else above)
  chosen.map fun k =>
    let ds := Integer.digits k
    ⟨(ds.reverse.dropWhile (· == '0')).reverse, unit + (ds.length : Int) - 1⟩

/-- The first grid, from the coarsest, with a point that reads back. Seventeen digits always
suffice. -/
def Interval.shortest (i : Interval) : Decimal :=
  ((List.range 17).findSome? fun n => i.onGrid (n + 1)).getD ⟨['0'], 0⟩

/-- How the digits of a number are laid out: positionally for the leading exponents from `least`
to `greatest`, else with an exponent that always carries its sign. -/
structure Layout where
  least : Int
  greatest : Int

def padded (count : Nat) (cs : List Char) : List Char :=
  cs ++ List.replicate (count - cs.length) '0'

def exponentChars (e : Int) : List Char :=
  (if e < 0 then '-' else '+') :: Integer.digits e.natAbs

def Layout.chars (layout : Layout) (d : Decimal) : List Char :=
  if layout.least ≤ d.exponent ∧ d.exponent ≤ layout.greatest then
    if d.exponent < 0 then
      '0' :: '.' :: (List.replicate (-d.exponent - 1).toNat '0' ++ d.digits)
    else
      let whole := d.exponent.toNat + 1
      let ds := padded (whole + 1) d.digits
      ds.take whole ++ '.' :: ds.drop whole
  else match d.digits with
    | [] => []
    | [first] => first :: 'e' :: exponentChars d.exponent
    | first :: rest => first :: '.' :: (rest ++ 'e' :: exponentChars d.exponent)

def Layout.text (layout : Layout) (x : Float) : String :=
  let bits := x.toBits
  let magnitude := Binary.ofBits bits
  let body :=
    if magnitude.significand = 0 then ['0', '.', '0']
    else layout.chars magnitude.interval.shortest
  String.ofList (if Nat.pow 2 63 ≤ bits.toNat then '-' :: body else body)

end RowGuard.Number
