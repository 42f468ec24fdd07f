import RowGuard.Proofs.Number.Decimal
import RowGuard.Proofs.Sql.Logic
import RowGuard.Proofs.Sql.Nesting
/-!
What the tokens of a condition mean, without a tree: a reader goes through them once and keeps what
it has read of every open parenthesis. A disjunction binds weaker than a conjunction, a conjunction
weaker than a comparison, and of several comparisons in a row the first is read first.
-/
namespace RowGuard.Sql

/-- What a condition says: the scalar value it has on each row. -/
abbrev Meaning := Row → Eval Value

namespace Meaning

def column (c : Column) : Meaning := fun row => .ok ((row c).getD .null)

def literal (v : Value) : Meaning := fun _ => .ok v

def equal (left right : Meaning) : Meaning := fun row => do
  return .ofTruth ((← left row).equals (← right row))

def member (needle : Meaning) (values : List Meaning) : Meaning := fun row => do
  return .ofTruth (← memberOf (← needle row) false (values.map (· row)))

/-- A lookup by a subquery, of which memory knows the text only. -/
def lookup (needle : Meaning) (text : String) : Meaning := fun row => do
  let _ ← needle row
  .error (.subquery text)

def conjunction (left right : Meaning) : Meaning := fun row =>
  (bothTrue ((left row).map Value.truth) ((right row).map Value.truth)).map .ofTruth

def disjunction (left right : Meaning) : Meaning := fun row =>
  (someTrue ((left row).map Value.truth) ((right row).map Value.truth)).map .ofTruth

def call (name : String) (arguments : List Meaning) : Meaning := fun row =>
  callFunction name (arguments.map (· row))

theorem conjunction_assoc (a b c : Meaning) :
    conjunction (conjunction a b) c = conjunction a (conjunction b c) := by
  funext row
  simp only [conjunction, truth_after_ofTruth, bothTrue_assoc]

theorem disjunction_assoc (a b c : Meaning) :
    disjunction (disjunction a b) c = disjunction a (disjunction b c) := by
  funext row
  simp only [disjunction, truth_after_ofTruth, someTrue_assoc]

end Meaning

namespace Value

def unescapedChar (c : Char) : Char :=
  if c = '0' then Char.ofNat 0
  else if c = 'n' then '\n'
  else if c = 'r' then '\r'
  else if c = 'Z' then Char.ofNat 0x1A
  else c

def unescape : List Char → List Char
  | [] => []
  | [c] => [c]
  | c :: d :: rest =>
    if c = '\\' then unescapedChar d :: unescape rest
    else if c = '\'' ∧ d = '\'' then '\'' :: unescape rest
    else c :: unescape (d :: rest)

theorem unescape_escape (c : Char) (rest : List Char) :
    unescape (escape c ++ rest) = c :: unescape rest := by
  unfold escape
  split_ifs with isQuote isBackslash isNull isFeed isReturn isSubstitute
  · rw [isQuote, List.cons_append, List.cons_append, List.nil_append, unescape, if_neg (by decide),
      if_pos ⟨rfl, rfl⟩]
  · rw [isBackslash]
    rfl
  · have same : c = Char.ofNat 0 := Char.toNat_inj.1 isNull
    rw [same]
    rfl
  · rw [isFeed]
    rfl
  · rw [isReturn]
    rfl
  · have same : c = Char.ofNat 0x1A := Char.toNat_inj.1 isSubstitute
    rw [same]
    rfl
  · cases rest with
    | nil => rfl
    | cons d rest =>
      rw [List.cons_append, List.nil_append, unescape, if_neg isBackslash,
        if_neg (fun doubled => isQuote doubled.1)]

theorem unescape_flatMap_escape (cs : List Char) : unescape (cs.flatMap escape) = cs := by
  induction cs with
  | nil => rfl
  | cons c cs ih => rw [List.flatMap_cons, unescape_escape, ih]

end Value

namespace Token

inductive Opener where
  | group
  | call (name : String)
  | members (needle : Meaning)

/-- What the last token leaves open. A name may turn out to be a qualifier or the name of a
function. -/
inductive Pending where
  | nothing
  | minus
  | name (cs : List Char)
  | qualifier (cs : List Char)
  | membership

structure Level where
  opener : Opener := .group
  /-- The finished items of a list. -/
  items : List Meaning := []
  /-- What stands in front of the last disjunction, conjunction and comparison, as far as it does
  not belong to an operator that binds weaker. -/
  disjuncts : Option Meaning := none
  conjuncts : Option Meaning := none
  compared : Option Meaning := none
  operand : Option Meaning := none
  pending : Pending := .nothing

def joinedBy (operator : Meaning → Meaning → Meaning) (left right : Option Meaning) :
    Option Meaning :=
  match left with
  | none => right
  | some l => right.map (operator l)

def numeral (cs : List Char) : Option Meaning :=
  (Integer.read? (String.ofList cs)).map fun n => .literal (.int n)

def startsWithDigit (cs : List Char) : Bool := cs.head?.any Char.isDigit

namespace Level

def comparison (level : Level) : Option Meaning := joinedBy .equal level.compared level.operand

def conjunction (level : Level) : Option Meaning :=
  joinedBy .conjunction level.conjuncts level.comparison

def disjunction (level : Level) : Option Meaning :=
  joinedBy .disjunction level.disjuncts level.conjunction

/-- All items of a list, the last one included. -/
def allItems (level : Level) : List Meaning := level.items ++ level.disjunction.toList

def closed (level : Level) : Option Meaning :=
  match level.opener with
  | .group => level.disjunction
  | .call name => some (.call name level.allItems)
  | .members needle => some (.member needle level.allItems)

def receive (level : Level) (m : Option Meaning) : Level :=
  { level with operand := m, pending := .nothing }

def opens (level : Level) : Opener :=
  match level.pending, level.operand with
  | .name cs, _ => .call (String.ofList cs)
  | .membership, some needle => .members needle
  | _, _ => .group

def readWord (level : Level) (cs : List Char) : Level :=
  match level.pending with
  | .qualifier q => level.receive (some (.column ⟨some (String.ofList q), String.ofList cs⟩))
  | .minus => level.receive (numeral ('-' :: cs))
  | _ =>
    if isKeyword "OR" cs then
      { level with
        disjuncts := level.disjunction
        conjuncts := none
        compared := none
        operand := none
        pending := .nothing }
    else if isKeyword "AND" cs then
      { level with
        conjuncts := level.conjunction
        compared := none
        operand := none
        pending := .nothing }
    else if isKeyword "IN" cs then
      { level with compared := none, operand := level.comparison, pending := .membership }
    else if isKeyword "NULL" cs then level.receive (some (.literal .null))
    else if startsWithDigit cs then level.receive (numeral cs)
    else { level with operand := some (.column (.bare (String.ofList cs))), pending := .name cs }

def readMark (level : Level) (c : Char) : Level :=
  if c = '=' then
    { level with compared := level.comparison, operand := none, pending := .nothing }
  else if c = ',' then { opener := level.opener, items := level.allItems }
  else if c = '-' then { level with pending := .minus }
  else if c = '.' then
    match level.pending with
    | .name q => { level with operand := none, pending := .qualifier q }
    | _ => level
  else level

end Level

/-- A reader between two tokens: within the innermost open parenthesis, or inside a subquery, whose
tokens are kept as they are, the latest first. -/
inductive Reader where
  | reading (level : Level) (outer : List Level)
  | skipping (needle : Meaning) (depth : Nat) (skipped : List Token) (level : Level)
      (outer : List Level)

namespace Reader

def step : Reader → Token → Reader
  | reading level outer, word cs =>
    if isKeyword "SELECT" cs then
      match level.opener, outer with
      | .members needle, below :: outer => skipping needle 0 [word cs] below outer
      | _, _ => reading level outer
    else reading (level.readWord cs) outer
  | reading level outer, quoted _ body =>
    reading (level.receive (some (.literal (.text (String.ofList (Value.unescape body)))))) outer
  | reading level outer, mark c => reading (level.readMark c) outer
  | reading level outer, opening => reading { opener := level.opens } (level :: outer)
  | reading level (below :: outer), closing => reading (below.receive level.closed) outer
  | reading level [], closing => reading level []
  | skipping needle depth skipped level outer, t =>
    if t = closing ∧ depth = 0 then
      reading (level.receive (some (.lookup needle (text skipped.reverse)))) outer
    else skipping needle (t.shift depth) (t :: skipped) level outer

def run (reader : Reader) (tokens : List Token) : Reader := tokens.foldl step reader

def result : Reader → Option Meaning
  | reading level [] => level.disjunction
  | _ => none

theorem run_nil (reader : Reader) : reader.run [] = reader := rfl

theorem run_cons (reader : Reader) (t : Token) (tokens : List Token) :
    reader.run (t :: tokens) = (reader.step t).run tokens := rfl

theorem run_append (reader : Reader) (a b : List Token) :
    reader.run (a ++ b) = (reader.run a).run b := List.foldl_append

end Reader

def meaning (tokens : List Token) : Option Meaning :=
  ((Reader.reading {} []).run tokens).result

end Token

end RowGuard.Sql
