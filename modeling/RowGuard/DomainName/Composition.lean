import RowGuard.DomainName.Composition.Table
/-!
One form for letters with marks. A letter may be written together with its marks as one character
or in front of them, and marks that do not touch may stand in any order. Composing takes all apart,
orders the marks by their places, and puts together what makes up one character.
-/
namespace RowGuard.DomainName.Composition

structure Composite where
  base : Char
  mark : Char
  whole : Char

def compositesOf (mark : Char) : List (List Char) → List Composite
  | [] => []
  | word :: rest =>
    if word.getLast? = some ':' then
      compositesOf (Char.ofNat (CodePoints.number word.dropLast)) rest
    else match Text.splitChars '+' word with
      | [base, whole] =>
        ⟨Char.ofNat (CodePoints.number base), mark, Char.ofNat (CodePoints.number whole)⟩ ::
          compositesOf mark rest
      | _ => compositesOf mark rest

def composites : List Composite :=
  pairLines.flatMap fun line => compositesOf '\x00' (CodePoints.words line)

def places : List (Nat × CodePoints) :=
  placeLines.map fun (place, line) => (place, .ofLines [line])

def place (c : Char) : Nat :=
  ((places.find? fun (_, set) => set.contains c).map (·.1)).getD 0

/-! ## Korean syllables -/

/-- The first syllable block of two letters, and how many letters may end a block, none included. -/
def firstSyllable : Nat := 0xAC00

def finals : Nat := 28

def syllables : Nat := 11172

def syllable? (a b : Char) : Option Char :=
  let lead := a.toNat - 0x1100
  let vowel := b.toNat - 0x1161
  let block := a.toNat - firstSyllable
  let final := b.toNat - 0x11A7
  if 0x1100 ≤ a.toNat ∧ lead < 19 ∧ 0x1161 ≤ b.toNat ∧ vowel < 21 then
    some (Char.ofNat (firstSyllable + (lead * 21 + vowel) * finals))
  else if firstSyllable ≤ a.toNat ∧ block < syllables ∧ block % finals = 0 ∧ 0x11A7 < b.toNat ∧
      final < finals then
    some (Char.ofNat (a.toNat + final))
  else none

def lettersOf? (c : Char) : Option (List Char) :=
  let block := c.toNat - firstSyllable
  if firstSyllable ≤ c.toNat ∧ block < syllables then
    let front := [Char.ofNat (0x1100 + block / (21 * finals)),
      Char.ofNat (0x1161 + block / finals % 21)]
    some (if block % finals = 0 then front
      else front ++ [Char.ofNat (0x11A7 + block % finals)])
  else none

/-! ## Taking apart and putting together -/

/-- How often a base can be a composite itself. -/
def deepest : Nat := 3

def partsWithin : Nat → Char → List Char
  | 0, c => [c]
  | depth + 1, c =>
    match composites.find? (·.whole == c) with
    | some composite => partsWithin depth composite.base ++ [composite.mark]
    | none => [c]

def parts (c : Char) : List Char := (lettersOf? c).getD (partsWithin deepest c)

/-- Puts a mark behind the marks of its place and of lower ones. The list stands in reverse. -/
def placeMark (c : Char) : List Char → List Char
  | [] => [c]
  | last :: rest =>
    if place c ≠ 0 ∧ place c < place last then last :: placeMark c rest else c :: last :: rest

def ordered (cs : List Char) : List Char := (cs.foldl (fun done c => placeMark c done) []).reverse

def pair? (a b : Char) : Option Char :=
  match syllable? a b with
  | some c => some c
  | none => (composites.find? fun c => c.base == a && c.mark == b).map (·.whole)

structure Cluster where
  done : List Char
  base : Option Char
  marks : List Char

def Cluster.chars (cluster : Cluster) : List Char :=
  cluster.marks ++ cluster.base.toList ++ cluster.done

/-- Adds a character: the base takes it up if the two make up one character and no mark of the same
place, or of a higher one, is between them. -/
def Cluster.add (cluster : Cluster) (c : Char) : Cluster :=
  let reaches := cluster.marks.head?.all fun mark => place mark < place c
  match (if reaches then cluster.base.bind fun base => pair? base c else none) with
  | some whole => { cluster with base := some whole }
  | none =>
    if place c = 0 then ⟨cluster.chars, some c, []⟩
    else { cluster with marks := c :: cluster.marks }

def compose (cs : List Char) : List Char :=
  ((ordered (cs.flatMap parts)).foldl Cluster.add ⟨[], none, []⟩).chars.reverse

end RowGuard.DomainName.Composition
