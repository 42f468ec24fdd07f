import RowGuard.Proofs.Sql.Nesting
import RowGuard.Sql.Combine
/-!
The grouping of rendered expressions. The text of an expression is balanced; outside all of its
parentheses a disjunction shows only where the tree itself is one, and a conjoined filter has the
conjuncts of its operands.
-/
namespace RowGuard.Sql

open Token

namespace Expr

theorem balanced_column (c : Column) : Balanced c.tokens := by
  unfold Column.tokens
  split <;> exact .of_level (by simp [isLevel])

theorem balanced_value (v : Value) : Balanced v.tokens := by
  cases v with
  | int n =>
    change Balanced (ofInt n.toInt)
    unfold ofInt
    split_ifs <;> exact .of_level (by simp [isLevel])
  | text s => exact .of_level (by simp [Value.tokens, isLevel])
  | null => exact .of_level (by simp [Value.tokens, keyword, isLevel])

mutual

theorem balanced_tokens : (e : Expr) → Balanced e.tokens
  | .column c => balanced_column c
  | .literal v => balanced_value v
  | .eq left right =>
    (balanced_tokens left).enclosedWhere.joined rfl (balanced_tokens right).enclosedWhere
  | .inValues needle values =>
    (balanced_tokens needle).enclosedWhere.joined rfl
      (Balanced.listed (balanced_tokensOperands values)).enclosed
  | .inSubquery needle projection _ filter =>
    (balanced_tokens needle).enclosedWhere.joined rfl
      (Balanced.cons rfl (.cons rfl ((balanced_column projection).joined rfl
        (.cons rfl (balanced_tokensFilter filter))))).enclosed
  | .and left right =>
    (balanced_tokens left).enclosedWhere.joined rfl (balanced_tokens right).enclosedWhere
  | .or left right => (balanced_tokens left).joined rfl (balanced_tokens right)
  | .nested inner => (balanced_tokens inner).enclosed
  | .function _ arguments => .cons rfl (Balanced.listed (balanced_tokensEach arguments)).enclosed

theorem balanced_tokensOperands : (es : List Expr) → ∀ item ∈ tokensOperands es, Balanced item
  | [], _, member => nomatch member
  | e :: rest, item, member => by
    rcases List.mem_cons.1 member with rfl | later
    · exact (balanced_tokens e).enclosedWhere
    · exact balanced_tokensOperands rest item later

theorem balanced_tokensEach : (es : List Expr) → ∀ item ∈ tokensEach es, Balanced item
  | [], _, member => nomatch member
  | e :: rest, item, member => by
    rcases List.mem_cons.1 member with rfl | later
    · exact balanced_tokens e
    · exact balanced_tokensEach rest item later

theorem balanced_tokensFilter : (filter : Option Expr) →
    Balanced (match tokensFilter filter with
      | some condition => blank :: keyword "WHERE" :: blank :: condition
      | none => [])
  | none => .nil
  | some e => .cons rfl (.cons rfl (.cons rfl (balanced_tokens e)))

end

theorem free_column {name : String} (known : name ∈ keywords) {c : Column}
    (plain : c.isPlain = true) : Free name c.tokens := by
  obtain ⟨qualifier, column⟩ := c
  simp only [Column.isPlain, Bool.and_eq_true] at plain
  have last := isKeyword_plainWord plain.1 known
  cases qualifier with
  | none => simpa [Free, Column.tokens, wordsOutside, word?, shift] using last
  | some qualifier =>
    have first := isKeyword_plainWord plain.2 known
    simpa [Free, Column.tokens, wordsOutside, word?, shift] using ⟨first, last⟩

theorem free_value {name : String} (known : name ∈ keywords) (other : name ≠ "NULL") (v : Value) :
    Free name v.tokens := by
  cases v with
  | int n =>
    change Free name (ofInt n.toInt)
    have number := isKeyword_digits n.toInt.natAbs known
    unfold ofInt
    split_ifs <;> simpa [Free, wordsOutside, word?, shift] using number
  | text s => simp [Free, Value.tokens, wordsOutside, word?]
  | null =>
    have differs : ∀ k ∈ keywords, k ≠ "NULL" → isKeyword k "NULL".toList = false := by decide
    simpa [Free, Value.tokens, keyword, wordsOutside, word?, shift] using differs name known other

/-- Outside its parentheses the text of anything but a conjunction or a disjunction has neither
connective. -/
theorem free_tokens {name : String} (connective : name = "AND" ∨ name = "OR") :
    (e : Expr) → e.isPlain = true → e.isCompound = false → Free name e.tokens
  | .column c, plain, _ => free_column (by rcases connective with rfl | rfl <;> decide) plain
  | .literal v, _, _ =>
    free_value (by rcases connective with rfl | rfl <;> decide)
      (by rcases connective with rfl | rfl <;> decide) v
  | .eq left right, plain, _ => by
    simp only [isPlain, Bool.and_eq_true] at plain
    exact .joined (balanced_tokens left).enclosedWhere
      (.enclosedWhere (balanced_tokens left) (free_tokens connective left plain.1)) rfl
      (by simp [word?])
      (.enclosedWhere (balanced_tokens right) (free_tokens connective right plain.2))
  | .inValues needle values, plain, _ => by
    simp only [isPlain, Bool.and_eq_true] at plain
    exact .joined (balanced_tokens needle).enclosedWhere
      (.enclosedWhere (balanced_tokens needle) (free_tokens connective needle plain.1)) rfl
      (by rcases connective with rfl | rfl <;> simp [keyword, word?, isKeyword])
      (.enclosed (Balanced.listed (balanced_tokensOperands values)) name)
  | .inSubquery needle projection _ filter, plain, _ => by
    simp only [isPlain, Bool.and_eq_true] at plain
    exact .joined (balanced_tokens needle).enclosedWhere
      (.enclosedWhere (balanced_tokens needle) (free_tokens connective needle plain.1.1.1)) rfl
      (by rcases connective with rfl | rfl <;> simp [keyword, word?, isKeyword])
      (.enclosed (Balanced.cons rfl (.cons rfl ((balanced_column projection).joined rfl
        (.cons rfl (balanced_tokensFilter filter))))) name)
  | .and _ _, _, simple => nomatch simple
  | .or _ _, _, simple => nomatch simple
  | .nested inner, _, _ => .enclosed (balanced_tokens inner) name
  | .function f arguments, plain, _ => by
    simp only [isPlain, Bool.and_eq_true] at plain
    have known : name ∈ keywords := by rcases connective with rfl | rfl <;> decide
    have inner := wordsOutside_enclosed (Balanced.listed (balanced_tokensEach arguments))
    have call := isKeyword_plainWord plain.1 known
    simpa [Free, tokens, wordsOutside_cons (t := word f.toList) rfl, inner, word?] using call

theorem free_or : (e : Expr) → e.isPlain = true → e.isOr = false → Free "OR" e.tokens
  | .and left right, plain, _ => by
    simp only [isPlain, Bool.and_eq_true] at plain
    exact .joined (balanced_tokens left).enclosedWhere
      (.enclosedWhere (balanced_tokens left) (free_or left plain.1)) rfl
      (by simp [keyword, word?, isKeyword])
      (.enclosedWhere (balanced_tokens right) (free_or right plain.2))
  | .or _ _, _, other => nomatch other
  | .column c, plain, _ => free_tokens (.inr rfl) (.column c) plain rfl
  | .literal v, plain, _ => free_tokens (.inr rfl) (.literal v) plain rfl
  | .eq left right, plain, _ => free_tokens (.inr rfl) (.eq left right) plain rfl
  | .inValues needle values, plain, _ =>
    free_tokens (.inr rfl) (.inValues needle values) plain rfl
  | .inSubquery needle projection source filter, plain, _ =>
    free_tokens (.inr rfl) (.inSubquery needle projection source filter) plain rfl
  | .nested inner, plain, _ => free_tokens (.inr rfl) (.nested inner) plain rfl
  | .function f arguments, plain, _ => free_tokens (.inr rfl) (.function f arguments) plain rfl

theorem framed_tokens : (e : Expr) → Framed e.tokens
  | .column ⟨none, _⟩ => ⟨⟨_, rfl, rfl⟩, _, rfl, rfl⟩
  | .column ⟨some _, _⟩ => ⟨⟨_, rfl, rfl⟩, _, rfl, rfl⟩
  | .literal (.int n) => by
    change Framed (ofInt n.toInt)
    unfold ofInt
    split_ifs
    · exact ⟨⟨_, rfl, rfl⟩, _, rfl, rfl⟩
    · exact ⟨⟨_, rfl, rfl⟩, _, rfl, rfl⟩
  | .literal (.text _) => ⟨⟨_, rfl, rfl⟩, _, rfl, rfl⟩
  | .literal .null => ⟨⟨_, rfl, rfl⟩, _, rfl, rfl⟩
  | .eq left right =>
    (framed_tokens left).enclosedWhere.joined _ (framed_tokens right).enclosedWhere
  | .inValues needle _ => (framed_tokens needle).enclosedWhere.joined _ (.enclosed _)
  | .inSubquery needle _ _ _ => (framed_tokens needle).enclosedWhere.joined _ (.enclosed _)
  | .and left right =>
    (framed_tokens left).enclosedWhere.joined _ (framed_tokens right).enclosedWhere
  | .or left right => (framed_tokens left).joined _ (framed_tokens right)
  | .nested inner => .enclosed inner.tokens
  | .function _ arguments => by
    obtain ⟨-, last, isLast, solid⟩ := Framed.enclosed (listed (tokensEach arguments))
    refine ⟨⟨_, rfl, rfl⟩, last, ?_, solid⟩
    rw [Option.mem_def] at isLast ⊢
    simp [tokens, List.getLast?_cons, isLast]

theorem text_tokens {e : Expr} (plain : e.isPlain = true) : Token.text e.tokens = e.render := by
  rw [Token.text, chars_read _ _ (reads_render e plain).whole, String.ofList_toList]

theorem conjuncts_tokens {e : Expr} (plain : e.isPlain = true) (simple : e.isCompound = false) :
    conjuncts e.tokens = [e.render] := by
  rw [conjuncts_free (free_tokens (.inl rfl) e plain simple) (framed_tokens e), text_tokens plain]

/-- Neither a conjunction nor in parentheses of its own. -/
def isOpen : Expr → Bool
  | .and _ _ => false
  | .nested _ => false
  | _ => true

theorem grouped_of_isOpen {e : Expr} (isOpen : e.isOpen = true) : grouped e = nested e := by
  cases e with
  | nested inner => cases isOpen
  | _ => rfl

/-- The conjuncts an expression contributes as an operand of a conjunction. -/
def operandConjuncts (e : Expr) : List String :=
  conjuncts (if e.isOr then grouped e else e).tokens

theorem operandConjuncts_conjoin (a b : Expr) :
    operandConjuncts (conjoin a b) = operandConjuncts a ++ operandConjuncts b := by
  have alone (e : Expr) (tokens : List Token) :
      conjunctTokens (if e.isOr then grouped e else e) tokens = tokens := by
    unfold conjunctTokens
    cases e <;> rfl
  have whole : operandConjuncts (conjoin a b) = conjuncts (conjoin a b).tokens := rfl
  rw [whole, conjoin, tokens, alone, alone, conjuncts_joined (balanced_tokens _)]
  rfl

theorem conjuncts_grouped {e : Expr} (plain : e.isPlain = true) (isOpen : e.isOpen = true) :
    conjuncts (grouped e).tokens = [parenthesized e.render] := by
  have alone : (nested e).isPlain = true := plain
  rw [grouped_of_isOpen isOpen, conjuncts_tokens alone rfl, render]

theorem operandConjuncts_of_isOpen {e : Expr} (plain : e.isPlain = true)
    (isOpen : e.isOpen = true) :
    operandConjuncts e = [if e.isOr then parenthesized e.render else e.render] := by
  unfold operandConjuncts
  split_ifs with disjunction
  · exact conjuncts_grouped plain isOpen
  · refine conjuncts_tokens plain ?_
    cases e with
    | and left right => cases isOpen
    | or left right => exact absurd rfl disjunction
    | _ => rfl

theorem operandConjuncts_grouped {e : Expr} (plain : e.isPlain = true) (isOpen : e.isOpen = true) :
    operandConjuncts (grouped e) = [parenthesized e.render] := by
  have bound : (grouped e).isOr = false := by
    rw [grouped_of_isOpen isOpen]
    rfl
  rw [operandConjuncts, bound]
  exact conjuncts_grouped plain isOpen

theorem isPlain_grouped (e : Expr) : (grouped e).isPlain = e.isPlain := by
  cases e <;> rfl

theorem isPlain_groupedWhere (compound : Bool) (e : Expr) :
    (if compound then grouped e else e).isPlain = e.isPlain := by
  cases compound with
  | true => exact isPlain_grouped e
  | false => rfl

theorem isPlain_conjoin (a b : Expr) : (conjoin a b).isPlain = (a.isPlain && b.isPlain) := by
  rw [conjoin, isPlain, isPlain_groupedWhere, isPlain_groupedWhere]

theorem isPlain_disjoin (a b : Expr) : (disjoin a b).isPlain = (a.isPlain && b.isPlain) := by
  rw [disjoin, isPlain, isPlain_groupedWhere, isPlain_groupedWhere]

theorem foldl_disjoin_open {first : Expr} {rest : List Expr} (plain : first.isPlain = true)
    (isOpen : first.isOpen = true) (later : ∀ e ∈ rest, e.isPlain = true) :
    (rest.foldl disjoin first).isPlain = true ∧ (rest.foldl disjoin first).isOpen = true := by
  induction rest generalizing first with
  | nil => exact ⟨plain, isOpen⟩
  | cons next rest ih =>
    have joined : (disjoin first next).isPlain = true := by
      rw [isPlain_disjoin, plain, later next List.mem_cons_self, Bool.and_self]
    exact ih joined rfl (fun e member => later e (List.mem_cons_of_mem next member))

end Expr

end RowGuard.Sql
