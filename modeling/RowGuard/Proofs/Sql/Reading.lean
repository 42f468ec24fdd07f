import Mathlib.Data.List.Forall2
import RowGuard.Proofs.Number.Decimal
import RowGuard.Proofs.Sql.Token
import RowGuard.Sql.Render
import RowGuard.Text.Case
/-!
How rendered expressions read. Where the names of an expression are plain words, its text is cut
into exactly the tokens that the tree calls for, whatever its literals hold.
-/
namespace RowGuard.Sql

def keywords : List String := ["AND", "OR", "IN", "NULL", "SELECT", "FROM", "WHERE"]

/-- A run of word characters that is no keyword in letters of either case. -/
def isPlainWord (name : String) : Bool :=
  name.toList != [] && name.toList.all Token.isWordChar && !keywords.contains (Text.upper name)

def Column.isPlain (c : Column) : Bool := isPlainWord c.name && c.qualifier.all isPlainWord

namespace Token

def blank : Token := mark ' '

def keyword (name : String) : Token := word name.toList

def enclosed (tokens : List Token) : List Token := opening :: (tokens ++ [closing])

def joined (left : List Token) (operator : Token) (right : List Token) : List Token :=
  left ++ blank :: operator :: blank :: right

def listed : List (List Token) → List Token
  | [] => []
  | [item] => item
  | item :: next :: rest => item ++ mark ',' :: blank :: listed (next :: rest)

def ofInt (i : Int) : List Token :=
  if i < 0 then [mark '-', word (Integer.digits i.natAbs)] else [word (Integer.digits i.natAbs)]

end Token

open Token

def Column.tokens (c : Column) : List Token :=
  match c.qualifier with
  | some qualifier => [word qualifier.toList, mark '.', word c.name.toList]
  | none => [word c.name.toList]

def Value.tokens : Value → List Token
  | .int n => ofInt n.toInt
  | .text s => [.quoted '\'' (s.toList.flatMap escape)]
  | .null => [keyword "NULL"]

namespace Expr

def operandTokens (e : Expr) (tokens : List Token) : List Token :=
  if e.isCompound then enclosed tokens else tokens

def conjunctTokens (e : Expr) (tokens : List Token) : List Token :=
  if e.isOr then enclosed tokens else tokens

def selectTokens (projection : Column) (source : String) (filter : Option (List Token)) :
    List Token :=
  keyword "SELECT" :: blank :: (joined projection.tokens (keyword "FROM") (word source.toList ::
    match filter with
    | some condition => blank :: keyword "WHERE" :: blank :: condition
    | none => []))

mutual

def tokens : Expr → List Token
  | .column c => c.tokens
  | .literal v => v.tokens
  | .eq left right =>
    joined (operandTokens left (tokens left)) (mark '=') (operandTokens right (tokens right))
  | .inValues needle values =>
    joined (operandTokens needle (tokens needle)) (keyword "IN")
      (enclosed (listed (tokensOperands values)))
  | .inSubquery needle projection source filter =>
    joined (operandTokens needle (tokens needle)) (keyword "IN")
      (enclosed (selectTokens projection source (tokensFilter filter)))
  | .and left right =>
    joined (conjunctTokens left (tokens left)) (keyword "AND") (conjunctTokens right (tokens right))
  | .or left right => joined (tokens left) (keyword "OR") (tokens right)
  | .nested inner => enclosed (tokens inner)
  | .function name arguments => word name.toList :: enclosed (listed (tokensEach arguments))

def tokensOperands : List Expr → List (List Token)
  | [] => []
  | e :: rest => operandTokens e (tokens e) :: tokensOperands rest

def tokensEach : List Expr → List (List Token)
  | [] => []
  | e :: rest => tokens e :: tokensEach rest

def tokensFilter : Option Expr → Option (List Token)
  | none => none
  | some e => some (tokens e)

end

mutual

/-- Whether every name in an expression is a plain word. Literals may hold anything. -/
def isPlain : Expr → Bool
  | .column c => c.isPlain
  | .literal _ => true
  | .eq left right => isPlain left && isPlain right
  | .inValues needle values => isPlain needle && arePlain values
  | .inSubquery needle projection source filter =>
    isPlain needle && projection.isPlain && isPlainWord source && isPlainFilter filter
  | .and left right => isPlain left && isPlain right
  | .or left right => isPlain left && isPlain right
  | .nested inner => isPlain inner
  | .function name arguments => isPlainWord name && arePlain arguments

def arePlain : List Expr → Bool
  | [] => true
  | e :: rest => isPlain e && arePlain rest

def isPlainFilter : Option Expr → Bool
  | none => true
  | some e => isPlain e

end

end Expr

namespace Token

theorem reads_plainWord {name : String} (plain : isPlainWord name = true) :
    Reads name.toList [word name.toList] := by
  simp only [isPlainWord, Bool.and_eq_true, bne_iff_ne, List.all_eq_true] at plain
  exact reads_word plain.1.1 plain.1.2

theorem reads_keyword (name : String) (present : name ∈ keywords) :
    Reads name.toList [keyword name] := by
  have words : keywords.all (fun k => k.toList != [] && k.toList.all isWordChar) = true := by decide
  have run := List.all_eq_true.1 words name present
  simp only [Bool.and_eq_true, bne_iff_ne, List.all_eq_true] at run
  exact reads_word run.1 run.2

theorem reads_mark {c : Char} (alone : standsAlone c = true) : Reads [c] [ofChar c] :=
  .cons alone .nil

theorem Reads.enclosed {cs : List Char} {tokens : List Token} (inner : Reads cs tokens) :
    Reads ('(' :: (cs ++ [')'])) (enclosed tokens) :=
  .cons (by decide) (inner.append (.cons (by decide) .nil) (.of_standsAlone (by decide) []))

theorem toList_parenthesized (s : String) :
    (parenthesized s).toList = '(' :: (s.toList ++ [')']) := by
  rw [parenthesized, String.toList_append, String.toList_append, List.append_assoc]
  rfl

theorem Reads.enclosedWhere {compound : Bool} {s : String} {tokens : List Token}
    (inner : Reads s.toList tokens) :
    Reads (if compound then parenthesized s else s).toList
      (if compound then Token.enclosed tokens else tokens) := by
  cases compound with
  | true =>
    rw [if_pos rfl, if_pos rfl, toList_parenthesized]
    exact inner.enclosed
  | false => exact inner

theorem Reads.joined {a k b : List Char} {ts us : List Token} {operator : Token}
    (left : Reads a ts) (middle : Reads k [operator]) (right : Reads b us) :
    Reads (a ++ ' ' :: (k ++ ' ' :: b)) (joined ts operator us) :=
  left.append
    (.cons (by decide) (middle.append (.cons (by decide) right) (.of_standsAlone (by decide) _)))
    (.of_standsAlone (by decide) _)

theorem reads_listed {items : List String} {tokens : List (List Token)}
    (each : List.Forall₂ (fun item ts => Reads item.toList ts) items tokens) :
    Reads (Text.join ", " items).toList (listed tokens) := by
  induction each with
  | nil => exact .nil
  | cons first rest ih =>
    cases rest with
    | nil => exact first
    | cons second rest =>
      rw [Text.join, listed, String.toList_append, String.toList_append, List.append_assoc]
      exact first.append (.cons (by decide) (.cons (by decide) ih)) (.of_standsAlone (by decide) _)

theorem digits_run (n : Nat) :
    Integer.digits n ≠ [] ∧ ∀ c ∈ Integer.digits n, c.isDigit = true := by
  obtain ⟨some, each, -, -⟩ := Integer.digits_spec n
  refine ⟨some, fun c member => ?_⟩
  rw [Char.isDigit, Bool.and_eq_true, decide_eq_true_eq, decide_eq_true_eq]
  exact each c member

theorem isWordChar_of_isDigit {c : Char} (digit : c.isDigit = true) : isWordChar c = true := by
  simp [isWordChar, Char.isAlphanum, digit]

theorem reads_int (i : Int) : Reads (Integer.chars i) (ofInt i) := by
  obtain ⟨nonempty, run⟩ := digits_run i.natAbs
  have word := reads_word nonempty (fun c member => isWordChar_of_isDigit (run c member))
  unfold Integer.chars ofInt
  by_cases negative : i < 0
  · rw [if_pos negative, if_pos negative]
    intro rest boundary
    -- A digit follows the minus, so the two do not start a comment.
    have noComment : startsComment '-' (Integer.digits i.natAbs ++ rest) = false := by
      cases digits : Integer.digits i.natAbs with
      | nil => exact absurd digits nonempty
      | cons d ds =>
        have digit := run d (by simp [digits])
        have noDash : d ≠ '-' := by
          rintro rfl
          exact absurd digit (by decide)
        simp [startsComment, noDash]
    rw [List.cons_append, read, if_neg (by decide), if_neg (by decide), noComment,
      word rest boundary, Option.map_map]
    rfl
  · rw [if_neg negative, if_neg negative]
    exact word

theorem reads_value (v : Value) : Reads v.render.toList v.tokens := by
  cases v with
  | int n =>
    rw [Value.render, Integer.text, String.toList_ofList]
    exact reads_int n.toInt
  | text s => exact reads_quoted s
  | null => exact reads_keyword "NULL" (by decide)

theorem reads_column {c : Column} (plain : c.isPlain = true) : Reads c.render.toList c.tokens := by
  obtain ⟨qualifier, name⟩ := c
  simp only [Column.isPlain, Bool.and_eq_true] at plain
  have ends := reads_plainWord plain.1
  cases qualifier with
  | none => exact ends
  | some qualifier =>
    simp only [Column.render, Column.tokens, String.toList_append, List.append_assoc]
    exact (reads_plainWord plain.2).append (.cons (by decide) ends) (.of_standsAlone (by decide) _)

end Token

namespace Expr

mutual

/-- The text of an expression with plain names reads as its tokens. -/
theorem reads_render : (e : Expr) → e.isPlain = true → Reads e.render.toList e.tokens
  | .column c, plain => reads_column plain
  | .literal v, _ => reads_value v
  | .eq left right, plain => by
    simp only [isPlain, Bool.and_eq_true] at plain
    simp only [render, String.toList_append, List.append_assoc]
    exact (reads_render left plain.1).enclosedWhere.joined (reads_mark (by decide))
      (reads_render right plain.2).enclosedWhere
  | .inValues needle values, plain => by
    simp only [isPlain, Bool.and_eq_true] at plain
    simp only [render, String.toList_append, List.append_assoc]
    exact (reads_render needle plain.1).enclosedWhere.joined (reads_keyword "IN" (by decide))
      (reads_listed (reads_renderOperands values plain.2)).enclosed
  | .inSubquery needle projection source filter, plain => by
    simp only [isPlain, Bool.and_eq_true] at plain
    obtain ⟨⟨⟨plainNeedle, plainProjection⟩, plainSource⟩, plainFilter⟩ := plain
    simp only [render, String.toList_append, List.append_assoc]
    exact (reads_render needle plainNeedle).enclosedWhere.joined (reads_keyword "IN" (by decide))
      (reads_select plainProjection plainSource filter plainFilter).enclosed
  | .and left right, plain => by
    simp only [isPlain, Bool.and_eq_true] at plain
    simp only [render, String.toList_append, List.append_assoc]
    exact (reads_render left plain.1).enclosedWhere.joined (reads_keyword "AND" (by decide))
      (reads_render right plain.2).enclosedWhere
  | .or left right, plain => by
    simp only [isPlain, Bool.and_eq_true] at plain
    simp only [render, String.toList_append, List.append_assoc]
    exact (reads_render left plain.1).joined (reads_keyword "OR" (by decide))
      (reads_render right plain.2)
  | .nested inner, plain => by
    rw [render, toList_parenthesized]
    exact (reads_render inner plain).enclosed
  | .function name arguments, plain => by
    simp only [isPlain, Bool.and_eq_true] at plain
    simp only [render, String.toList_append, List.append_assoc]
    exact (reads_plainWord plain.1).append
      (reads_listed (reads_renderAll arguments plain.2)).enclosed (.of_standsAlone (by decide) _)

theorem reads_renderOperands : (es : List Expr) → arePlain es = true →
    List.Forall₂ (fun item ts => Reads item.toList ts) (renderOperands es) (tokensOperands es)
  | [], _ => .nil
  | e :: rest, plain => by
    simp only [arePlain, Bool.and_eq_true] at plain
    exact .cons (reads_render e plain.1).enclosedWhere (reads_renderOperands rest plain.2)

theorem reads_renderAll : (es : List Expr) → arePlain es = true →
    List.Forall₂ (fun item ts => Reads item.toList ts) (renderAll es) (tokensEach es)
  | [], _ => .nil
  | e :: rest, plain => by
    simp only [arePlain, Bool.and_eq_true] at plain
    exact .cons (reads_render e plain.1) (reads_renderAll rest plain.2)

theorem reads_select {projection : Column} {source : String}
    (plainProjection : projection.isPlain = true) (plainSource : isPlainWord source = true) :
    (filter : Option Expr) → isPlainFilter filter = true →
      Reads (selectText projection source (renderFilter filter)).toList
        (selectTokens projection source (tokensFilter filter))
  | none, _ => by
    simp only [selectText, renderFilter, String.toList_append, List.append_assoc]
    exact (reads_keyword "SELECT" (by decide)).append
      (.cons (by decide) ((reads_column plainProjection).joined (reads_keyword "FROM" (by decide))
        ((reads_plainWord plainSource).append .nil (by simp [EndsToken]))))
      (.of_standsAlone (by decide) _)
  | some e, plain => by
    simp only [selectText, renderFilter, String.toList_append, List.append_assoc]
    exact (reads_keyword "SELECT" (by decide)).append
      (.cons (by decide) ((reads_column plainProjection).joined (reads_keyword "FROM" (by decide))
        ((reads_plainWord plainSource).joined (reads_keyword "WHERE" (by decide))
          (reads_render e plain))))
      (.of_standsAlone (by decide) _)

end

end Expr

end RowGuard.Sql
