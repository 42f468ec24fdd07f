import RowGuard.Proofs.Sql.Grouping
import RowGuard.Proofs.Sql.Precedence
/-!
Rendering keeps meanings apart. Read without the tree, the text of an expression means what the
expression means, so two expressions with one text agree on every row.
-/
namespace RowGuard.Sql

open Token

namespace Expr

def meaning (e : Expr) : Meaning := fun row => e.value row

def isComparison : Expr → Bool
  | .eq _ _ => true
  | .inValues _ _ => true
  | .inSubquery _ _ _ _ => true
  | _ => false

mutual

/-- The names of the columns, qualifiers, tables and functions of an expression. -/
def names : Expr → List String
  | .column c => c.name :: c.qualifier.toList
  | .literal _ => []
  | .eq left right => names left ++ names right
  | .inValues needle values => names needle ++ namesEach values
  | .inSubquery needle projection source filter =>
    names needle ++ projection.name :: projection.qualifier.toList ++ source :: namesFilter filter
  | .and left right => names left ++ names right
  | .or left right => names left ++ names right
  | .nested inner => names inner
  | .function name arguments => name :: namesEach arguments

def namesEach : List Expr → List String
  | [] => []
  | e :: rest => names e ++ namesEach rest

def namesFilter : Option Expr → List String
  | none => []
  | some e => names e

end

mutual

/-- Whether no comparison, on its own, is the right operand of another. A subquery is looked up
elsewhere and may hold any condition. -/
def comparesLeft : Expr → Bool
  | .column _ => true
  | .literal _ => true
  | .eq left right => comparesLeft left && comparesLeft right && !right.isComparison
  | .inValues needle values => comparesLeft needle && comparesLeftEach values
  | .inSubquery needle _ _ _ => comparesLeft needle
  | .and left right => comparesLeft left && comparesLeft right
  | .or left right => comparesLeft left && comparesLeft right
  | .nested inner => comparesLeft inner
  | .function _ arguments => comparesLeftEach arguments

def comparesLeftEach : List Expr → Bool
  | [] => true
  | e :: rest => comparesLeft e && comparesLeftEach rest

end

theorem isPlainWord_of_isIdentifier {name : String} (valid : isIdentifier name = true) :
    isPlainWord name = true := by
  simp only [isIdentifier, Bool.and_eq_true] at valid
  exact valid.1

theorem isPlain_column {c : Column}
    (valid : ∀ n ∈ c.name :: c.qualifier.toList, isIdentifier n = true) : c.isPlain = true := by
  obtain ⟨qualifier, name⟩ := c
  rw [Column.isPlain, isPlainWord_of_isIdentifier (valid name List.mem_cons_self)]
  cases qualifier with
  | none => rfl
  | some q => exact isPlainWord_of_isIdentifier (valid q (by simp))

mutual

theorem isPlain_of_names :
    (e : Expr) → (∀ n ∈ e.names, isIdentifier n = true) → e.isPlain = true
  | .column c, valid => isPlain_column valid
  | .literal _, _ => rfl
  | .eq left right, valid => by
    simp only [names, List.forall_mem_append] at valid
    rw [isPlain, isPlain_of_names left valid.1, isPlain_of_names right valid.2, Bool.and_self]
  | .inValues needle values, valid => by
    simp only [names, List.forall_mem_append] at valid
    rw [isPlain, isPlain_of_names needle valid.1, arePlain_of_names values valid.2, Bool.and_self]
  | .inSubquery needle projection source filter, valid => by
    simp only [names, List.append_assoc, List.cons_append, List.forall_mem_append,
      List.forall_mem_cons] at valid
    obtain ⟨needleValid, nameValid, qualifierValid, sourceValid, filterValid⟩ := valid
    have column := isPlain_column (List.forall_mem_cons.2 ⟨nameValid, qualifierValid⟩)
    rw [isPlain, isPlain_of_names needle needleValid, column,
      isPlainWord_of_isIdentifier sourceValid, isPlainFilter_of_names filter filterValid]
    rfl
  | .and left right, valid => by
    simp only [names, List.forall_mem_append] at valid
    rw [isPlain, isPlain_of_names left valid.1, isPlain_of_names right valid.2, Bool.and_self]
  | .or left right, valid => by
    simp only [names, List.forall_mem_append] at valid
    rw [isPlain, isPlain_of_names left valid.1, isPlain_of_names right valid.2, Bool.and_self]
  | .nested inner, valid => isPlain_of_names inner valid
  | .function name arguments, valid => by
    simp only [names, List.forall_mem_cons] at valid
    rw [isPlain, isPlainWord_of_isIdentifier valid.1, arePlain_of_names arguments valid.2,
      Bool.and_self]

theorem arePlain_of_names :
    (es : List Expr) → (∀ n ∈ namesEach es, isIdentifier n = true) → arePlain es = true
  | [], _ => rfl
  | e :: rest, valid => by
    simp only [namesEach, List.forall_mem_append] at valid
    rw [arePlain, isPlain_of_names e valid.1, arePlain_of_names rest valid.2, Bool.and_self]

theorem isPlainFilter_of_names :
    (filter : Option Expr) → (∀ n ∈ namesFilter filter, isIdentifier n = true) →
      isPlainFilter filter = true
  | none, _ => rfl
  | some e, valid => isPlain_of_names e valid

end

/-- The tokens of an expression are read as its meaning, at the place its weakest operator asks
for. -/
def IsRead (e : Expr) : Prop :=
  match e with
  | .or _ _ => ReadsDisjuncts e.tokens e.meaning
  | .and _ _ => ReadsConjuncts e.tokens e.meaning
  | .eq _ _ => ReadsComparison e.tokens e.meaning
  | .inValues _ _ => ReadsComparison e.tokens e.meaning
  | .inSubquery _ _ _ _ => ReadsComparison e.tokens e.meaning
  | _ => ReadsOperand e.tokens e.meaning

theorem IsRead.disjuncts {e : Expr} (read : e.IsRead) : ReadsDisjuncts e.tokens e.meaning := by
  cases e with
  | or left right => exact read
  | and left right => exact ReadsConjuncts.disjuncts read
  | eq left right => exact (ReadsComparison.conjuncts read).disjuncts
  | inValues needle values => exact (ReadsComparison.conjuncts read).disjuncts
  | inSubquery needle projection source filter =>
    exact (ReadsComparison.conjuncts read).disjuncts
  | _ => exact (ReadsOperand.comparison read).conjuncts.disjuncts

theorem IsRead.conjunct {e : Expr} (read : e.IsRead) :
    ReadsConjuncts (conjunctTokens e e.tokens) e.meaning := by
  cases e with
  | or left right => exact (ReadsDisjuncts.enclosed read).comparison.conjuncts
  | and left right => exact read
  | eq left right => exact ReadsComparison.conjuncts read
  | inValues needle values => exact ReadsComparison.conjuncts read
  | inSubquery needle projection source filter => exact ReadsComparison.conjuncts read
  | _ => exact (ReadsOperand.comparison read).conjuncts

theorem IsRead.compared {e : Expr} (read : e.IsRead) :
    ReadsComparison (operandTokens e e.tokens) e.meaning := by
  cases e with
  | or left right => exact (ReadsDisjuncts.enclosed read).comparison
  | and left right => exact (ReadsConjuncts.disjuncts read).enclosed.comparison
  | eq left right => exact read
  | inValues needle values => exact read
  | inSubquery needle projection source filter => exact read
  | _ => exact ReadsOperand.comparison read

theorem IsRead.operand {e : Expr} (read : e.IsRead) (single : e.isComparison = false) :
    ReadsOperand (operandTokens e e.tokens) e.meaning := by
  cases e with
  | or left right => exact ReadsDisjuncts.enclosed read
  | and left right => exact (ReadsConjuncts.disjuncts read).enclosed
  | eq left right => cases single
  | inValues needle values => cases single
  | inSubquery needle projection source filter => cases single
  | _ => exact read

theorem valueEach_eq (row : Row) (es : List Expr) :
    valueEach row es = (es.map meaning).map (· row) := by
  induction es with
  | nil => rfl
  | cons e rest ih => rw [valueEach, ih]; rfl

theorem meaning_inValues (needle : Expr) (values : List Expr) :
    (inValues needle values).meaning = .member needle.meaning (values.map meaning) := by
  funext row
  rw [meaning, value, valueEach_eq]
  rfl

theorem meaning_function (name : String) (arguments : List Expr) :
    (function name arguments).meaning = .call name (arguments.map meaning) := by
  funext row
  rw [meaning, value, valueEach_eq]
  rfl

theorem text_selectTokens {projection : Column} {source : String} {filter : Option Expr}
    (plainProjection : projection.isPlain = true) (plainSource : isPlainWord source = true)
    (plainFilter : isPlainFilter filter = true) :
    Token.text (selectTokens projection source (tokensFilter filter)) =
      selectText projection source (renderFilter filter) := by
  have read := (reads_select plainProjection plainSource filter plainFilter).whole
  rw [Token.text, chars_read _ _ read, String.ofList_toList]

mutual

theorem isRead : (e : Expr) → (∀ n ∈ e.names, isIdentifier n = true) → e.comparesLeft = true →
    e.IsRead
  | .column c, valid, _ =>
    readsOperand_column (valid c.name List.mem_cons_self) fun q present =>
      valid q (List.mem_cons_of_mem _ (Option.mem_toList.2 present))
  | .literal v, _, _ => readsOperand_value v
  | .eq left right, valid, grouped => by
    simp only [names, List.forall_mem_append] at valid
    simp only [comparesLeft, Bool.and_eq_true, Bool.not_eq_true'] at grouped
    exact (isRead left valid.1 grouped.1.1).compared.equal
      ((isRead right valid.2 grouped.1.2).operand grouped.2)
  | .inValues needle values, valid, grouped => by
    simp only [names, List.forall_mem_append] at valid
    simp only [comparesLeft, Bool.and_eq_true] at grouped
    rw [IsRead, meaning_inValues]
    exact (isRead needle valid.1 grouped.1).compared.member
      (areRead_operands values valid.2 grouped.2)
  | .inSubquery needle projection source filter, valid, grouped => by
    simp only [names, List.append_assoc, List.cons_append, List.forall_mem_append,
      List.forall_mem_cons] at valid
    obtain ⟨needleValid, nameValid, qualifierValid, sourceValid, filterValid⟩ := valid
    have column := isPlain_column (List.forall_mem_cons.2 ⟨nameValid, qualifierValid⟩)
    have written := text_selectTokens column (isPlainWord_of_isIdentifier sourceValid)
      (isPlainFilter_of_names filter filterValid)
    have same : (inSubquery needle projection source filter).meaning =
        .lookup needle.meaning
          (Token.text (selectTokens projection source (tokensFilter filter))) := by
      rw [written]
      rfl
    rw [IsRead, same]
    exact (isRead needle needleValid grouped).compared.lookup
      (.cons rfl ((balanced_column projection).joined rfl
        (.cons rfl (balanced_tokensFilter filter))))
  | .and left right, valid, grouped => by
    simp only [names, List.forall_mem_append] at valid
    simp only [comparesLeft, Bool.and_eq_true] at grouped
    exact (isRead left valid.1 grouped.1).conjunct.joined
      (isRead right valid.2 grouped.2).conjunct
  | .or left right, valid, grouped => by
    simp only [names, List.forall_mem_append] at valid
    simp only [comparesLeft, Bool.and_eq_true] at grouped
    exact (isRead left valid.1 grouped.1).disjuncts.joined
      (isRead right valid.2 grouped.2).disjuncts
  | .nested inner, valid, grouped => (isRead inner valid grouped).disjuncts.enclosed
  | .function name arguments, valid, grouped => by
    simp only [names, List.forall_mem_cons] at valid
    change ReadsOperand _ (function name arguments).meaning
    rw [meaning_function]
    exact readsOperand_call valid.1 (areRead_each arguments valid.2 grouped)

theorem areRead_operands : (es : List Expr) → (∀ n ∈ namesEach es, isIdentifier n = true) →
    comparesLeftEach es = true →
      List.Forall₂ ReadsDisjuncts (tokensOperands es) (es.map meaning)
  | [], _, _ => .nil
  | e :: rest, valid, grouped => by
    simp only [namesEach, List.forall_mem_append] at valid
    simp only [comparesLeftEach, Bool.and_eq_true] at grouped
    exact .cons (isRead e valid.1 grouped.1).compared.conjuncts.disjuncts
      (areRead_operands rest valid.2 grouped.2)

theorem areRead_each : (es : List Expr) → (∀ n ∈ namesEach es, isIdentifier n = true) →
    comparesLeftEach es = true → List.Forall₂ ReadsDisjuncts (tokensEach es) (es.map meaning)
  | [], _, _ => .nil
  | e :: rest, valid, grouped => by
    simp only [namesEach, List.forall_mem_append] at valid
    simp only [comparesLeftEach, Bool.and_eq_true] at grouped
    exact .cons (isRead e valid.1 grouped.1).disjuncts (areRead_each rest valid.2 grouped.2)

end

theorem meaning_tokens {e : Expr} (valid : ∀ n ∈ e.names, isIdentifier n = true)
    (grouped : e.comparesLeft = true) : Token.meaning e.tokens = some e.meaning := by
  obtain ⟨disjuncts, conjuncts, compared, operand, pending, -, run, whole⟩ :=
    (isRead e valid grouped).disjuncts {} [] rfl rfl rfl
  rw [Token.meaning, run]
  exact whole

theorem tokens_eq_of_render_eq {a b : Expr} (plainA : a.isPlain = true) (plainB : b.isPlain = true)
    (same : a.render = b.render) : a.tokens = b.tokens := by
  have first := (reads_render a plainA).whole
  rw [same, (reads_render b plainB).whole] at first
  exact (Option.some.inj first).symm

/-- Rendering keeps meanings apart. Two expressions with the same text say the same of every row,
with the same truth value or the same error, whatever their literals hold and however they are
grouped, as long as no comparison is the right operand of another without parentheses. -/
theorem same_text_same_truth {a b : Expr} (validA : ∀ n ∈ a.names, isIdentifier n = true)
    (validB : ∀ n ∈ b.names, isIdentifier n = true) (groupedA : a.comparesLeft = true)
    (groupedB : b.comparesLeft = true) (same : a.render = b.render) (row : Row) :
    a.truth row = b.truth row := by
  have tokens := tokens_eq_of_render_eq (isPlain_of_names a validA) (isPlain_of_names b validB) same
  have meanings : some a.meaning = some b.meaning := by
    rw [← meaning_tokens validA groupedA, ← meaning_tokens validB groupedB, tokens]
  exact congrArg (Except.map Value.truth) (congrFun (Option.some.inj meanings) row)

/-- Nested conjunctions and parentheses that the text shows anyway make no difference. -/
theorem same_text_same_truth_regrouped :
    (Expr.and (.and (.columnEq ⟨some "o", "note"⟩ (.text "it's \\"))
        (.inValues (.column (.bare "dept_id")) [.int 3, .int (-5)]))
      (.or (.function "f" []) (.literal .null))).truth
        (Row.ofTable [("dept_id", .int 3), ("note", .text "it's \\")]) =
    (Expr.and (.columnEq ⟨some "o", "note"⟩ (.text "it's \\"))
      (.and (.inValues (.column (.bare "dept_id")) [.int 3, .int (-5)])
        (.nested (.or (.function "f" []) (.literal .null))))).truth
          (Row.ofTable [("dept_id", .int 3), ("note", .text "it's \\")]) :=
  same_text_same_truth (by decide) (by decide) (by decide) (by decide) (by decide +kernel) _

/-- A comparison as the right operand of another is written like one as the left operand, though it
means something else: `2 = (2 = 1)` is false, and `(2 = 2) = 1` is true. -/
theorem right_comparison_is_lost :
    (Expr.eq (.int 2) (.eq (.int 2) (.int 1))).render =
        (Expr.eq (.eq (.int 2) (.int 2)) (.int 1)).render ∧
      ∀ row : Row, (Expr.eq (.int 2) (.eq (.int 2) (.int 1))).truth row = .ok (some false) ∧
        (Expr.eq (.eq (.int 2) (.int 2)) (.int 1)).truth row = .ok (some true) :=
  ⟨by decide +kernel, fun _ => ⟨rfl, rfl⟩⟩

end Expr

end RowGuard.Sql
