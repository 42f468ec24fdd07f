import RowGuard.Time.Instant
import RowGuard.Text.Blank
import RowGuard.Text.Case
/-!
Reading points in time in the manner of RFC 3339, leniently: numbers may lack leading zeros, white
space may stand before a number or a separator, and a blank may stand for the `T`.
-/
namespace RowGuard.Instant

abbrev Scan (α : Type) := StateT (List Char) Option α

namespace Scan

def fail {α : Type} : Scan α := fun _ => none

def skipBlanks : Scan Unit := modify Text.trimStart

/-- The number and count of up to `limit` leading digits, added to `acc`, and the rest. -/
def takeDigits (acc : Nat) : Nat → List Char → Nat × Nat × List Char
  | 0, cs => (acc, 0, cs)
  | _ + 1, [] => (acc, 0, [])
  | limit + 1, c :: rest =>
    match Integer.digit? c with
    | none => (acc, 0, c :: rest)
    | some d =>
      let (value, count, after) := takeDigits (acc * 10 + d) limit rest
      (value, count + 1, after)

def digits (limit : Nat) : Scan (Nat × Nat) := do
  let (value, count, rest) := takeDigits 0 limit (← get)
  if count = 0 then fail
  set rest
  return (value, count)

def number (limit : Nat) : Scan Nat := do
  skipBlanks
  return (← digits limit).1

/-- One given character, white space before it allowed. -/
def separator (c : Char) : Scan Unit := do
  skipBlanks
  match ← get with
  | first :: rest => if first = c then set rest else fail
  | [] => fail

/-- A year: up to four digits, any number of them behind a sign. -/
def year : Scan Int := do
  skipBlanks
  let cs ← get
  match cs with
  | '-' :: rest =>
    set rest
    return -((← digits rest.length).1 : Int)
  | '+' :: rest =>
    set rest
    return (← digits rest.length).1
  | _ => return (← digits 4).1

def date : Scan Date := do
  let year ← year
  separator '-'
  let month ← number 2
  separator '-'
  let day ← number 2
  let date : Date := ⟨year, month, day⟩
  if date.isValid then return date else fail

/-- Nanoseconds from the digits behind a point; the digits after the ninth are dropped. -/
def fraction : Scan Nat := do
  match ← get with
  | '.' :: rest =>
    set rest
    let (value, count) ← digits 9
    modify fun cs => cs.dropWhile fun c => (Integer.digit? c).isSome
    return value * Nat.pow 10 (9 - count)
  | _ => return 0

/-- Seconds of the day and nanoseconds, the sixtieth second counted into the one before. -/
def timeOfDay : Scan (Nat × Nat) := do
  let hour ← number 2
  separator ':'
  let minute ← number 2
  separator ':'
  let second ← number 2
  let nanos ← fraction
  if 23 < hour ∨ 59 < minute ∨ 60 < second then fail
  else if second = 60 then return (hour * 3600 + minute * 60 + 59, nanosPerSecond + nanos)
  else return (hour * 3600 + minute * 60 + second, nanos)

def twoDigits : Scan Nat := do
  let (value, count) ← digits 2
  if count = 2 then return value else fail

def takesUniversal (cs : List Char) : Bool := (cs.take 3).map Char.toUpper == ['U', 'T', 'C']

/-- Seconds east of universal time: `Z`, `UTC`, or a sign, hours and minutes. -/
def offset : Scan Int := do
  skipBlanks
  let cs ← get
  if takesUniversal cs then
    set (cs.drop 3)
    return 0
  match cs with
  | [] => fail
  | sign :: rest =>
    set rest
    if sign = 'Z' ∨ sign = 'z' then return 0
    if sign ≠ '+' ∧ sign ≠ '-' ∧ sign.toNat ≠ 0x2212 then fail
    let hours ← twoDigits
    modify fun cs => cs.dropWhile fun c => c = ':' || Text.isBlank c
    let minutes ← twoDigits
    if 59 < minutes ∨ 24 ≤ hours then fail
    let seconds : Int := hours * 3600 + minutes * 60
    return (if sign = '+' then seconds else -seconds)

def instant : Scan Instant := do
  let date ← date
  match ← get with
  | c :: rest => if c = 't' ∨ c = 'T' ∨ c = ' ' then set rest else fail
  | [] => fail
  let (ofDay, nanos) ← timeOfDay
  let offset ← offset
  skipBlanks
  if !(← get).isEmpty then fail
  let seconds := date.toDays * secondsPerDay + ofDay - offset
  let day := Date.ofDays (seconds / secondsPerDay)
  if day.isValid then return ⟨seconds, nanos⟩ else fail

end Scan

def read? (s : String) : Option Instant := (Scan.instant.run s.toList).map Prod.fst

end RowGuard.Instant
