import RowGuard.Proofs.Sql.Combination
import RowGuard.Proofs.Sql.Membership
import RowGuard.Proofs.Text.Pieces
/-!
Operands joined by one connective in one order. However they are nested, and wherever parentheses
stand, the joined expression evaluates to what the operands say together; without parentheses of its
own the nesting cannot be told from the text either.
-/
namespace RowGuard.Sql

inductive Arrangement where
  | operand (e : Expr)
  | joined (left right : Arrangement)
  | enclosed (inner : Arrangement)

namespace Arrangement

def operands : Arrangement → List Expr
  | operand e => [e]
  | joined left right => left.operands ++ right.operands
  | enclosed inner => inner.operands

def expr (c : Connective) : Arrangement → Expr
  | operand e => e
  | joined left right => .node c (left.expr c) (right.expr c)
  | enclosed inner => .nested (inner.expr c)

/-- Whether there are no parentheses but those of the operands. -/
def isBare : Arrangement → Bool
  | operand _ => true
  | joined left right => left.isBare && right.isBare
  | enclosed _ => false

theorem operands_ne_nil (a : Arrangement) : a.operands ≠ [] := by
  induction a with
  | operand e => exact List.cons_ne_nil e []
  | joined left right first _ => exact List.append_ne_nil_of_left_ne_nil first _
  | enclosed inner ih => exact ih

end Arrangement

namespace Connective

/-- The value of some operands together. A single one stands for itself; several make a
condition. -/
def jointValue (c : Connective) (row : Row) : List Expr → Eval Value
  | [e] => e.value row
  | es => (c.whole (es.map (Expr.truth row))).map .ofTruth

def word : Connective → String
  | conjunction => " AND "
  | disjunction => " OR "

def operandText : Connective → Expr → String → String
  | conjunction, e, text => Expr.conjunctText e text
  | disjunction, _, text => text

def jointText (c : Connective) : List Expr → String
  | [e] => e.render
  | es => Text.join c.word (es.map fun e => c.operandText e e.render)

section Several

variable {front back : List Expr} (some : front ≠ []) (others : back ≠ [])

include some others

theorem append_eq_cons_cons : ∃ first second rest, front ++ back = first :: second :: rest := by
  obtain ⟨first, front, rfl⟩ := List.exists_cons_of_ne_nil some
  obtain ⟨second, rest, same⟩ :=
    List.exists_cons_of_ne_nil (List.append_ne_nil_of_right_ne_nil front others)
  exact ⟨first, second, rest, by rw [List.cons_append, same]⟩

theorem jointValue_append (c : Connective) (row : Row) :
    c.jointValue row (front ++ back) =
      (c.whole ((front ++ back).map (Expr.truth row))).map .ofTruth := by
  obtain ⟨first, second, rest, same⟩ := append_eq_cons_cons some others
  rw [same]
  rfl

theorem jointText_append (c : Connective) :
    c.jointText (front ++ back) =
      Text.join c.word ((front ++ back).map fun e => c.operandText e e.render) := by
  obtain ⟨first, second, rest, same⟩ := append_eq_cons_cons some others
  rw [same]
  rfl

end Several

end Connective

namespace Expr

theorem truth_node (row : Row) (c : Connective) (a b : Expr) :
    (node c a b).truth row = c.apply (a.truth row) (b.truth row) := by
  cases c with
  | conjunction => exact truth_and row a b
  | disjunction => exact truth_or row a b

theorem isCondition_node (c : Connective) (a b : Expr) : (node c a b).isCondition = true := by
  cases c <;> rfl

theorem render_node (c : Connective) (a b : Expr) :
    (node c a b).render = c.operandText a a.render ++ c.word ++ c.operandText b b.render := by
  cases c <;> simp only [node, render, Connective.operandText, Connective.word]

theorem operandText_node (c : Connective) (a b : Expr) (text : String) :
    c.operandText (node c a b) text = text := by
  cases c <;> rfl

end Expr

namespace Arrangement

theorem truth_expr (c : Connective) (row : Row) (a : Arrangement) :
    (a.expr c).truth row = c.whole (a.operands.map (Expr.truth row)) := by
  induction a with
  | operand e => exact (c.whole_singleton _).symm
  | joined left right first second =>
    rw [expr, Expr.truth_node, first, second, operands, List.map_append, Connective.whole_append]
  | enclosed inner ih => rw [expr, Expr.truth_nested, ih, operands]

theorem value_expr (c : Connective) (row : Row) (a : Arrangement) :
    (a.expr c).value row = c.jointValue row a.operands := by
  induction a with
  | operand e => rfl
  | joined left right _ _ =>
    rw [expr, Expr.value_of_isCondition (Expr.isCondition_node c _ _), operands,
      c.jointValue_append left.operands_ne_nil right.operands_ne_nil]
    exact congrArg (Except.map _) (truth_expr c row (joined left right))
  | enclosed inner ih => rw [expr, Expr.value, ih, operands]

theorem operandText_expr (c : Connective) {a : Arrangement} (bare : a.isBare = true) :
    c.operandText (a.expr c) (a.expr c).render =
      Text.join c.word (a.operands.map fun e => c.operandText e e.render) := by
  induction a with
  | operand e => rfl
  | joined left right first second =>
    obtain ⟨leftBare, rightBare⟩ := Bool.and_eq_true_iff.1 bare
    rw [expr, Expr.operandText_node, Expr.render_node, first leftBare, second rightBare, operands,
      List.map_append, Text.join_append c.word]
    · exact fun empty => left.operands_ne_nil (List.map_eq_nil_iff.1 empty)
    · exact fun empty => right.operands_ne_nil (List.map_eq_nil_iff.1 empty)
  | enclosed inner _ => cases bare

theorem render_expr (c : Connective) {a : Arrangement} (bare : a.isBare = true) :
    (a.expr c).render = c.jointText a.operands := by
  cases a with
  | operand e => rfl
  | joined left right =>
    have text := operandText_expr c bare
    rw [expr, Expr.operandText_node] at text
    rw [expr, text, operands, c.jointText_append left.operands_ne_nil right.operands_ne_nil]
  | enclosed inner => cases bare

end Arrangement

end RowGuard.Sql
