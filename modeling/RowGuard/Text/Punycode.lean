import RowGuard.Number.Integer
import RowGuard.Text.Split
/-!
Text in ASCII letters, digits and hyphens. A text is written as its ASCII characters, followed by
the places and numbers of the others as differences, in digits of base 36 whose weights adapt to the
size of the differences.
-/
namespace RowGuard.Text.Punycode

def digitChar (d : Nat) : Char :=
  if d < 26 then Char.ofNat ('a'.toNat + d) else Char.ofNat ('0'.toNat + d - 26)

/-- The least digit at a position that is followed by another. -/
def threshold (bias position : Nat) : Nat := min 26 (max 1 (position - bias))

/-- A difference in digits, least significant first. -/
def digitsOf (bias position difference : Nat) : List Char :=
  let least := threshold bias position
  if difference < least then [digitChar difference]
  else
    digitChar (least + (difference - least) % (36 - least)) ::
      digitsOf bias (position + 36) ((difference - least) / (36 - least))
termination_by difference
decreasing_by
  have low : 1 ≤ threshold bias position := by unfold threshold; omega
  have small := Nat.div_le_self (difference - threshold bias position)
    (36 - threshold bias position)
  omega

def shrink (difference rounds : Nat) : Nat :=
  if 455 < difference then shrink (difference / 35) (rounds + 1)
  else 36 * rounds + 36 * difference / (difference + 38)
termination_by difference

/-- The bias after a difference, the first of which is damped. -/
def adapt (difference written : Nat) (first : Bool) : Nat :=
  let damped := if first then difference / 700 else difference / 2
  shrink (damped + damped / written) 0

/-- How far a label is written: its digits, the difference to the next character and how many
characters are done. -/
structure State where
  digits : List Char := []
  difference : Nat := 0
  bias : Nat := 72
  written : Nat

def State.pass (plain code : Nat) (state : State) (c : Char) : State :=
  if c.toNat < code then { state with difference := state.difference + 1 }
  else if c.toNat = code then
    { digits := state.digits ++ digitsOf state.bias 36 state.difference
      difference := 0
      bias := adapt state.difference (state.written + 1) (state.written == plain)
      written := state.written + 1 }
  else state

/-- Writes the characters with the given numbers, which increase. `next` is the least number that
is not done. -/
def State.writeAll (label : List Char) (plain : Nat) (state : State) (next : Nat) :
    List Nat → State
  | [] => state
  | code :: rest =>
    let start :=
      { state with difference := state.difference + (code - next) * (state.written + 1) }
    let done := label.foldl (State.pass plain code) start
    State.writeAll label plain { done with difference := done.difference + 1 } (code + 1) rest

def isAscii (c : Char) : Bool := c.toNat < 0x80

def encode (label : List Char) : List Char :=
  let plain := label.filter isAscii
  let codes := ((label.filter (!isAscii ·)).map Char.toNat).mergeSort.eraseDups
  let state := State.writeAll label plain.length { written := plain.length } 0x80 codes
  plain ++ (if plain.isEmpty then [] else ['-']) ++ state.digits

/-! ## Reading -/

def digitValue? (c : Char) : Option Nat :=
  if 'a' ≤ c ∧ c ≤ 'z' then some (c.toNat - 'a'.toNat)
  else if 'A' ≤ c ∧ c ≤ 'Z' then some (c.toNat - 'A'.toNat)
  else (Integer.digit? c).map (26 + ·)

/-- How far a label is read: its characters, the number of the last one that was put in and the
index behind it, and the difference whose digits are being read. -/
structure Reading where
  label : List Char
  code : Nat := 0x80
  index : Nat := 0
  bias : Nat := 72
  position : Nat := 36
  weight : Nat := 1
  difference : Nat := 0

def Reading.step (reading : Reading) (c : Char) : Option Reading := do
  let d ← digitValue? c
  let least := threshold reading.bias reading.position
  let difference := reading.difference + d * reading.weight
  if least ≤ d then
    return { reading with
      position := reading.position + 36
      weight := reading.weight * (36 - least)
      difference }
  else
    let count := reading.label.length + 1
    let code := reading.code + (reading.index + difference) / count
    let index := (reading.index + difference) % count
    if code.isValidChar then
      return { label := reading.label.insertIdx index (Char.ofNat code)
               code
               index := index + 1
               bias := adapt difference count (reading.index == 0) }
    else none

/-- The label that some ASCII characters stand for. What stands before the last hyphen is kept. -/
def decode (cs : List Char) : Option (List Char) := do
  let digits := afterLast '-' cs
  let plain := cs.take (cs.length - digits.length - 1)
  let reading ←
    (if plain.isEmpty then cs else digits).foldlM Reading.step { label := plain }
  if reading.position = 36 then return reading.label else none

end RowGuard.Text.Punycode
