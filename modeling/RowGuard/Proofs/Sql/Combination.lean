import RowGuard.Proofs.Sql.Logic
/-!
What the combinators make of expressions. An expression is explicit if a change of connective shows
in it as a pair of parentheses of its own, so that its text needs no others. The combinators keep
expressions explicit, and the parentheses they put add nothing to what the parts say together.
-/
namespace RowGuard.Sql

namespace Connective

def other : Connective → Connective
  | conjunction => disjunction
  | disjunction => conjunction

end Connective

namespace Expr

def node : Connective → Expr → Expr → Expr
  | .conjunction => .and
  | .disjunction => .or

def isNode : Connective → Expr → Bool
  | .conjunction => isAnd
  | .disjunction => isOr

mutual

/-- Whether nowhere in an expression, its subqueries included, an operand of one connective is
joined by the other one without parentheses of its own. -/
def isExplicit : Expr → Bool
  | .column _ => true
  | .literal _ => true
  | .eq left right => isExplicit left && isExplicit right
  | .inValues needle values => isExplicit needle && areExplicit values
  | .inSubquery needle _ _ filter => isExplicit needle && isExplicitFilter filter
  | .and left right => !left.isOr && !right.isOr && (isExplicit left && isExplicit right)
  | .or left right => !left.isAnd && !right.isAnd && (isExplicit left && isExplicit right)
  | .nested inner => isExplicit inner
  | .function _ arguments => areExplicit arguments

def areExplicit : List Expr → Bool
  | [] => true
  | e :: rest => isExplicit e && areExplicit rest

def isExplicitFilter : Option Expr → Bool
  | none => true
  | some e => isExplicit e

end

theorem isExplicit_node {c : Connective} {a b : Expr} :
    (node c a b).isExplicit = true ↔ (a.isNode c.other = false ∧ b.isNode c.other = false) ∧
      a.isExplicit = true ∧ b.isExplicit = true := by
  cases c <;>
    simp only [node, isExplicit, isNode, Connective.other, Bool.and_eq_true, Bool.not_eq_true']

theorem isExplicit_grouped (e : Expr) : (grouped e).isExplicit = e.isExplicit := by
  cases e <;> rfl

theorem isNode_grouped (c : Connective) (e : Expr) : (grouped e).isNode c = false := by
  cases c <;> cases e <;> rfl

def operandOf (c : Connective) (e : Expr) : Expr := if e.isNode c.other then grouped e else e

theorem combine_eq_node (c : Connective) (a b : Expr) :
    combine c a b = node c (operandOf c a) (operandOf c b) := by
  cases c <;> rfl

theorem isNode_operandOf (c : Connective) (e : Expr) : (operandOf c e).isNode c.other = false := by
  unfold operandOf
  split
  · exact isNode_grouped c.other e
  · next separate => exact Bool.eq_false_iff.2 separate

theorem isExplicit_operandOf (c : Connective) (e : Expr) :
    (operandOf c e).isExplicit = e.isExplicit := by
  unfold operandOf
  split
  · exact isExplicit_grouped e
  · rfl

theorem isExplicit_combine (c : Connective) {a b : Expr} (left : a.isExplicit = true)
    (right : b.isExplicit = true) : (combine c a b).isExplicit = true := by
  rw [combine_eq_node, isExplicit_node, isExplicit_operandOf, isExplicit_operandOf]
  exact ⟨⟨isNode_operandOf c a, isNode_operandOf c b⟩, left, right⟩

def combineAll : Connective → List Expr → Option Expr
  | .conjunction => conjoinAll
  | .disjunction => disjoinAll

theorem combineAll_nil (c : Connective) : combineAll c [] = none := by
  cases c <;> rfl

theorem combineAll_cons (c : Connective) (first : Expr) (rest : List Expr) :
    combineAll c (first :: rest) = some (rest.foldl (combine c) first) := by
  cases c <;> rfl

theorem isExplicit_combineAll {c : Connective} {list : List Expr} {e : Expr}
    (each : ∀ link ∈ list, link.isExplicit = true) (joined : combineAll c list = some e) :
    e.isExplicit = true := by
  cases list with
  | nil =>
    rw [combineAll_nil] at joined
    cases joined
  | cons first rest =>
    rw [combineAll_cons] at joined
    cases joined
    refine List.foldlRecOn (motive := fun chain => chain.isExplicit = true) rest (combine c)
      (each first List.mem_cons_self) ?_
    intro chain explicit next member
    exact isExplicit_combine c explicit (each next (List.mem_cons_of_mem first member))

theorem isExplicit_restrict {existing : Option Expr} {predicate : Expr}
    (filter : ∀ e ∈ existing, e.isExplicit = true) (explicit : predicate.isExplicit = true) :
    (restrict existing predicate).isExplicit = true := by
  cases existing with
  | none => exact explicit
  | some e =>
    refine isExplicit_combine .conjunction (filter e rfl) ?_
    rw [isExplicit_grouped, explicit]

mutual

/-- The text of an expression, with the way of writing the operands of a conjunction left open. -/
def renderWith (conjunct : Expr → String → String) : Expr → String
  | .column c => c.render
  | .literal v => v.render
  | .eq left right =>
    operandText left (renderWith conjunct left) ++ " = " ++
      operandText right (renderWith conjunct right)
  | .inValues needle values =>
    operandText needle (renderWith conjunct needle) ++ " IN (" ++
      Text.join ", " (renderOperandsWith conjunct values) ++ ")"
  | .inSubquery needle projection source filter =>
    operandText needle (renderWith conjunct needle) ++ " IN (" ++
      selectText projection source (renderFilterWith conjunct filter) ++ ")"
  | .and left right =>
    conjunct left (renderWith conjunct left) ++ " AND " ++
      conjunct right (renderWith conjunct right)
  | .or left right => renderWith conjunct left ++ " OR " ++ renderWith conjunct right
  | .nested inner => parenthesized (renderWith conjunct inner)
  | .function name arguments =>
    name ++ "(" ++ Text.join ", " (renderAllWith conjunct arguments) ++ ")"

def renderOperandsWith (conjunct : Expr → String → String) : List Expr → List String
  | [] => []
  | e :: rest => operandText e (renderWith conjunct e) :: renderOperandsWith conjunct rest

def renderAllWith (conjunct : Expr → String → String) : List Expr → List String
  | [] => []
  | e :: rest => renderWith conjunct e :: renderAllWith conjunct rest

def renderFilterWith (conjunct : Expr → String → String) : Option Expr → Option String
  | none => none
  | some e => some (renderWith conjunct e)

end

mutual

theorem renderWith_conjunctText : (e : Expr) → e.renderWith conjunctText = e.render
  | .column _ => rfl
  | .literal _ => rfl
  | .eq left right => by
    rw [renderWith, render, renderWith_conjunctText left, renderWith_conjunctText right]
  | .inValues needle values => by
    rw [renderWith, render, renderWith_conjunctText needle, renderOperandsWith_conjunctText values]
  | .inSubquery needle projection source filter => by
    rw [renderWith, render, renderWith_conjunctText needle, renderFilterWith_conjunctText filter]
  | .and left right => by
    rw [renderWith, render, renderWith_conjunctText left, renderWith_conjunctText right]
  | .or left right => by
    rw [renderWith, render, renderWith_conjunctText left, renderWith_conjunctText right]
  | .nested inner => by rw [renderWith, render, renderWith_conjunctText inner]
  | .function name arguments => by
    rw [renderWith, render, renderAllWith_conjunctText arguments]

theorem renderOperandsWith_conjunctText :
    (es : List Expr) → renderOperandsWith conjunctText es = renderOperands es
  | [] => rfl
  | e :: rest => by
    rw [renderOperandsWith, renderOperands, renderWith_conjunctText e,
      renderOperandsWith_conjunctText rest]

theorem renderAllWith_conjunctText :
    (es : List Expr) → renderAllWith conjunctText es = renderAll es
  | [] => rfl
  | e :: rest => by
    rw [renderAllWith, renderAll, renderWith_conjunctText e, renderAllWith_conjunctText rest]

theorem renderFilterWith_conjunctText :
    (filter : Option Expr) → renderFilterWith conjunctText filter = renderFilter filter
  | none => rfl
  | some e => by rw [renderFilterWith, renderFilter, renderWith_conjunctText e]

end

def bareText (_ : Expr) (text : String) : String := text

mutual

/-- No conjunct of an explicit expression is a disjunction, so none needs parentheses that are not
there already. -/
theorem renderWith_bareText : (e : Expr) → e.isExplicit = true → e.renderWith bareText = e.render
  | .column _, _ => rfl
  | .literal _, _ => rfl
  | .eq left right, explicit => by
    simp only [isExplicit, Bool.and_eq_true] at explicit
    rw [renderWith, render, renderWith_bareText left explicit.1,
      renderWith_bareText right explicit.2]
  | .inValues needle values, explicit => by
    simp only [isExplicit, Bool.and_eq_true] at explicit
    rw [renderWith, render, renderWith_bareText needle explicit.1,
      renderOperandsWith_bareText values explicit.2]
  | .inSubquery needle projection source filter, explicit => by
    simp only [isExplicit, Bool.and_eq_true] at explicit
    rw [renderWith, render, renderWith_bareText needle explicit.1,
      renderFilterWith_bareText filter explicit.2]
  | .and left right, explicit => by
    obtain ⟨⟨noOr, noOr'⟩, first, second⟩ := (isExplicit_node (c := .conjunction)).1 explicit
    have bound {e : Expr} (text : String) (noOr : e.isOr = false) : conjunctText e text = text := by
      rw [conjunctText, noOr, if_neg Bool.false_ne_true]
    rw [renderWith, render, renderWith_bareText left first, renderWith_bareText right second,
      bound _ noOr, bound _ noOr', bareText, bareText]
  | .or left right, explicit => by
    obtain ⟨-, first, second⟩ := (isExplicit_node (c := .disjunction)).1 explicit
    rw [renderWith, render, renderWith_bareText left first, renderWith_bareText right second]
  | .nested inner, explicit => by rw [renderWith, render, renderWith_bareText inner explicit]
  | .function name arguments, explicit => by
    rw [renderWith, render, renderAllWith_bareText arguments explicit]

theorem renderOperandsWith_bareText : (es : List Expr) → areExplicit es = true →
    renderOperandsWith bareText es = renderOperands es
  | [], _ => rfl
  | e :: rest, explicit => by
    simp only [areExplicit, Bool.and_eq_true] at explicit
    rw [renderOperandsWith, renderOperands, renderWith_bareText e explicit.1,
      renderOperandsWith_bareText rest explicit.2]

theorem renderAllWith_bareText : (es : List Expr) → areExplicit es = true →
    renderAllWith bareText es = renderAll es
  | [], _ => rfl
  | e :: rest, explicit => by
    simp only [areExplicit, Bool.and_eq_true] at explicit
    rw [renderAllWith, renderAll, renderWith_bareText e explicit.1,
      renderAllWith_bareText rest explicit.2]

theorem renderFilterWith_bareText : (filter : Option Expr) → isExplicitFilter filter = true →
    renderFilterWith bareText filter = renderFilter filter
  | none, _ => rfl
  | some e, explicit => by rw [renderFilterWith, renderFilter, renderWith_bareText e explicit]

end

/-- Combinators group explicitly and change nothing else. From explicit expressions they make
explicit ones, and an explicit expression has the text it would have without any parentheses of the
renderer around conjuncts. Whatever the expressions are, a list joined by one connective says of
every row what its members say from the left, with the error that comes first, and a filter with a
predicate added to it says what the two say as a conjunction. -/
theorem combinators_group_explicitly :
    (∀ a b : Expr, a.isExplicit = true → b.isExplicit = true →
      (conjoin a b).isExplicit = true ∧ (disjoin a b).isExplicit = true ∧
        (grouped a).isExplicit = true ∧ (restrict none a).isExplicit = true ∧
        (restrict (some a) b).isExplicit = true) ∧
    (∀ list : List Expr, (∀ e ∈ list, e.isExplicit = true) → ∀ e,
      conjoinAll list = some e ∨ disjoinAll list = some e → e.isExplicit = true) ∧
    (∀ e : Expr, e.renderWith conjunctText = e.render ∧
      (e.isExplicit = true → e.renderWith bareText = e.render)) ∧
    ∀ row : Row,
      (∀ list : List Expr, (conjoinAll list).map (truth row) =
          (if list = [] then none else some (conjunctionOf (list.map (truth row)))) ∧
        (disjoinAll list).map (truth row) =
          (if list = [] then none else some (disjunctionOf (list.map (truth row))))) ∧
      (∀ e : Expr, (grouped e).truth row = e.truth row) ∧
      ∀ existing predicate, (restrict existing predicate).truth row =
        conjunctionOf ((existing.toList ++ [predicate]).map (truth row)) := by
  have joined (row : Row) (c : Connective) (list : List Expr) :
      (combineAll c list).map (truth row) =
        if list = [] then none else some (c.whole (list.map (truth row))) := by
    cases list with
    | nil => rw [combineAll_nil, if_pos rfl, Option.map_none]
    | cons first rest =>
      rw [combineAll_cons, if_neg (List.cons_ne_nil first rest), Option.map_some,
        truth_foldl_combine]
  refine ⟨fun a b left right => ?_, fun list each e result => ?_, fun e => ?_, fun row => ?_⟩
  · have group : (grouped a).isExplicit = true := (isExplicit_grouped a).trans left
    exact ⟨isExplicit_combine .conjunction left right, isExplicit_combine .disjunction left right,
      group, isExplicit_restrict (by simp) left, isExplicit_restrict (by simpa using left) right⟩
  · rcases result with conjoined | disjoined
    · exact isExplicit_combineAll (c := .conjunction) each conjoined
    · exact isExplicit_combineAll (c := .disjunction) each disjoined
  · exact ⟨renderWith_conjunctText e, renderWith_bareText e⟩
  · refine ⟨fun list => ⟨joined row .conjunction list, joined row .disjunction list⟩,
      truth_grouped row, fun existing predicate => ?_⟩
    cases existing with
    | none => exact (Connective.whole_singleton .conjunction _).symm
    | some filter =>
      rw [truth_restrict, Option.toList_some, List.singleton_append, List.map_cons,
        conjunctionOf_cons]
      exact congrArg _ (Connective.whole_singleton .conjunction _).symm

/-- Two disjunctions and what they are joined to get their parentheses from the combinators. -/
theorem combinators_group_explicitly_disjunctions :
    let either : Expr := .or (.columnEq (.bare "a") (.int 1)) (.columnEq (.bare "b") (.int 2))
    let link : Expr := .columnEq (.bare "c") (.int 3)
    either.isExplicit = true ∧ (∀ e ∈ [either, link, either], e.isExplicit = true) ∧
      (restrict (some either) either).isExplicit = true ∧
      ∃ e, conjoinAll [either, link, either] = some e ∧ e.isExplicit = true ∧
        e.renderWith bareText = "(a = 1 OR b = 2) AND c = 3 AND (a = 1 OR b = 2)" := by
  intro either link
  have explicit : either.isExplicit = true := rfl
  have each : ∀ e ∈ [either, link, either], e.isExplicit = true := by
    simp only [List.forall_mem_cons]
    exact ⟨rfl, rfl, rfl, nofun⟩
  obtain ⟨two, lists, -, -⟩ := combinators_group_explicitly
  exact ⟨explicit, each, (two either either explicit explicit).2.2.2.2, _, rfl,
    lists _ each _ (.inl rfl), by decide +kernel⟩

end Expr

end RowGuard.Sql
