import Mathlib.Data.List.Forall2
import RowGuard.Proofs.Sql.Logic
/-!
Filters over the content of a database. In memory a subquery has no value; here it selects from the
rows of its table, and everything else means what it means in memory. Wherever the evaluator in
memory gives an answer other than that it met a subquery, the answer here is the same.
-/
namespace RowGuard.Sql

abbrev Database := String → List Row

/-- The rows for which a condition is definitely true. An error on any row is an error. -/
def rowsWhere (condition : Row → Eval (Option Bool)) : List Row → Eval (List Row)
  | [] => .ok []
  | row :: rest => do
    let accepted ← condition row
    let others ← rowsWhere condition rest
    return if accepted = some true then row :: others else others

namespace Expr

mutual

/-- The scalar value of an expression on a row of a database. The filter and the projection of a
subquery are read from the rows of its own table. -/
def valueIn (db : Database) : Expr → Row → Eval Value
  | .column c, row => .ok ((row c).getD .null)
  | .literal v, _ => .ok v
  | .eq left right, row => do
    return .ofTruth ((← valueIn db left row).equals (← valueIn db right row))
  | .inValues needle values, row => do
    return .ofTruth (← memberOf (← valueIn db needle row) false (valueEachIn db values row))
  | .inSubquery needle projection source filter, row => do
    let sought ← valueIn db needle row
    let selected ← rowsWhere (conditionIn db filter) (db source)
    return .ofTruth (← memberOf sought false
      (selected.map fun other => .ok ((other projection).getD .null)))
  | .and left right, row =>
    (bothTrue ((valueIn db left row).map Value.truth)
      ((valueIn db right row).map Value.truth)).map .ofTruth
  | .or left right, row =>
    (someTrue ((valueIn db left row).map Value.truth)
      ((valueIn db right row).map Value.truth)).map .ofTruth
  | .nested inner, row => valueIn db inner row
  | .function name arguments, row => callFunction name (valueEachIn db arguments row)

def valueEachIn (db : Database) : List Expr → Row → List (Eval Value)
  | [], _ => []
  | e :: rest, row => valueIn db e row :: valueEachIn db rest row

/-- The condition of a subquery; without one every row of the table is selected. -/
def conditionIn (db : Database) : Option Expr → Row → Eval (Option Bool)
  | none, _ => .ok (some true)
  | some e, row => (valueIn db e row).map Value.truth

end

def truthIn (db : Database) (e : Expr) (row : Row) : Eval (Option Bool) :=
  (valueIn db e row).map Value.truth

end Expr

/-- The result over a database is the one in memory, unless a subquery was met in memory. -/
def Completes {α : Type} (stored plain : Eval α) : Prop :=
  stored = plain ∨ ∃ text, plain = .error (.subquery text)

theorem Completes.refl {α : Type} (plain : Eval α) : Completes plain plain := .inl rfl

theorem Completes.bind {α β : Type} {stored plain : Eval α} {f g : α → Eval β}
    (first : Completes stored plain) (next : ∀ a, Completes (f a) (g a)) :
    Completes (stored >>= f) (plain >>= g) := by
  rcases first with rfl | ⟨text, rfl⟩
  · cases stored with
    | error e => exact .inl rfl
    | ok a => exact next a
  · exact .inr ⟨text, rfl⟩

theorem Completes.map {α β : Type} {stored plain : Eval α} (f : α → β)
    (first : Completes stored plain) : Completes (stored.map f) (plain.map f) := by
  rcases first with rfl | ⟨text, rfl⟩
  · exact .inl rfl
  · exact .inr ⟨text, rfl⟩

theorem Completes.bothTrue {a b c d : Eval (Option Bool)} (left : Completes a b)
    (right : Completes c d) : Completes (bothTrue a c) (bothTrue b d) := by
  refine left.bind fun l => ?_
  by_cases decided : l = some false
  · simp only [if_pos decided]
    exact .inl rfl
  · simp only [if_neg decided]
    exact right.bind fun r => .refl _

theorem Completes.someTrue {a b c d : Eval (Option Bool)} (left : Completes a b)
    (right : Completes c d) : Completes (someTrue a c) (someTrue b d) := by
  refine left.bind fun l => ?_
  by_cases decided : l = some true
  · simp only [if_pos decided]
    exact .inl rfl
  · simp only [if_neg decided]
    exact right.bind fun r => .refl _

theorem Completes.memberOf (needle : Value) (unknown : Bool) {stored plain : List (Eval Value)}
    (each : List.Forall₂ Completes stored plain) :
    Completes (memberOf needle unknown stored) (memberOf needle unknown plain) := by
  induction each generalizing unknown with
  | nil => exact .refl _
  | cons first _ ih =>
    refine first.bind fun v => ?_
    rcases needle.equals v with _ | _ | _
    · exact ih true
    · exact ih unknown
    · exact .refl _

theorem Completes.callFunction (name : String) {stored plain : List (Eval Value)}
    (each : List.Forall₂ Completes stored plain) :
    Completes (callFunction name stored) (callFunction name plain) := by
  unfold Sql.callFunction
  by_cases known : Text.sameLetters name "FIND_IN_SET" = true
  · simp only [known, Bool.not_true, Bool.false_eq_true, ↓reduceIte]
    cases each with
    | nil => exact .refl _
    | cons first rest =>
      cases rest with
      | nil => exact .refl _
      | cons second rest =>
        cases rest with
        | nil => exact first.bind fun needle => second.bind fun list => .refl _
        | cons third rest => exact .inl (by simp [rest.length_eq])
  · simp only [known, Bool.not_false, ↓reduceIte]
    exact .refl _

namespace Expr

mutual

theorem valueIn_completes (db : Database) (row : Row) :
    (e : Expr) → Completes (valueIn db e row) (value row e)
  | .column _ => .refl _
  | .literal _ => .refl _
  | .eq left right =>
    (valueIn_completes db row left).bind fun _ => (valueIn_completes db row right).bind fun _ =>
      .refl _
  | .inValues needle values =>
    (valueIn_completes db row needle).bind fun sought =>
      (Completes.memberOf sought false (valueEachIn_completes db row values)).bind fun _ => .refl _
  | .inSubquery needle _ _ _ =>
    (valueIn_completes db row needle).bind fun _ => .inr ⟨_, rfl⟩
  | .and left right =>
    (((valueIn_completes db row left).map Value.truth).bothTrue
      ((valueIn_completes db row right).map Value.truth)).map _
  | .or left right =>
    (((valueIn_completes db row left).map Value.truth).someTrue
      ((valueIn_completes db row right).map Value.truth)).map _
  | .nested inner => valueIn_completes db row inner
  | .function name arguments => .callFunction name (valueEachIn_completes db row arguments)

theorem valueEachIn_completes (db : Database) (row : Row) :
    (es : List Expr) → List.Forall₂ Completes (valueEachIn db es row) (valueEach row es)
  | [] => .nil
  | e :: rest => .cons (valueIn_completes db row e) (valueEachIn_completes db row rest)

end

end Expr

/-- Whether a filter admits a row of a database. Without a filter every row is admitted. -/
def Database.Admits (db : Database) (filter : Option Expr) (row : Row) : Prop :=
  ∀ e, filter = some e → e.truthIn db row = .ok (some true)

theorem someTrue_ok (l r : Option Bool) :
    ∃ t, someTrue (.ok l) (.ok r) = .ok t ∧ (t = some true ↔ l = some true ∨ r = some true) := by
  rcases l with _ | _ | _ <;> rcases r with _ | _ | _ <;> exact ⟨_, rfl, by decide⟩

theorem memberOf_ok (needle : Value) (unknown : Bool) (values : List Value) :
    ∃ t, memberOf needle unknown (values.map Except.ok) = .ok t ∧
      (t = some true ↔ ∃ v ∈ values, needle.equals v = some true) := by
  induction values generalizing unknown with
  | nil => cases unknown <;> exact ⟨_, rfl, by simp⟩
  | cons v rest ih =>
    simp only [List.map_cons, List.exists_mem_cons_iff]
    cases compared : needle.equals v with
    | none =>
      obtain ⟨t, evaluated, found⟩ := ih true
      refine ⟨t, ?_, by simp [found]⟩
      rw [← evaluated]
      simp only [memberOf, bind, Except.bind, compared]
    | some same =>
      cases same with
      | true =>
        refine ⟨some true, ?_, by simp⟩
        simp only [memberOf, bind, Except.bind, compared, pure, Except.pure]
      | false =>
        obtain ⟨t, evaluated, found⟩ := ih unknown
        refine ⟨t, ?_, by simp [found]⟩
        rw [← evaluated]
        simp only [memberOf, bind, Except.bind, compared]

theorem rowsWhere_ok {condition : Row → Eval (Option Bool)} {verdict : Row → Option Bool}
    (total : ∀ row, condition row = .ok (verdict row)) (rows : List Row) :
    rowsWhere condition rows = .ok (rows.filter fun row => verdict row == some true) := by
  induction rows with
  | nil => rfl
  | cons row rest ih =>
    simp only [rowsWhere, total, ih, bind, Except.bind, pure, Except.pure, List.filter_cons,
      beq_iff_eq]

namespace Expr

theorem truthIn_columnEq (db : Database) (c : Column) (v : Value) (row : Row) :
    (columnEq c v).truthIn db row = .ok (((row c).getD .null).equals v) := by
  simp only [truthIn, columnEq, valueIn]
  exact congrArg Except.ok (Value.truth_ofTruth _)

theorem truthIn_grouped (db : Database) (e : Expr) (row : Row) :
    (grouped e).truthIn db row = e.truthIn db row := by
  cases e <;> simp only [grouped, truthIn, valueIn]

theorem truthIn_disjoin (db : Database) (a b : Expr) (row : Row) :
    (disjoin a b).truthIn db row = someTrue (a.truthIn db row) (b.truthIn db row) := by
  have operand (apart : Bool) (e : Expr) :
      (if apart then grouped e else e).truthIn db row = e.truthIn db row := by
    cases apart
    · rfl
    · exact truthIn_grouped db e row
  rw [← operand a.isAnd a, ← operand b.isAnd b]
  simp only [disjoin, truthIn, valueIn]
  exact truth_after_ofTruth _

theorem truthIn_foldl_disjoin (db : Database) (row : Row) (first : Expr) (rest : List Expr)
    (total : ∀ e ∈ first :: rest, ∃ t, e.truthIn db row = .ok t) :
    (rest.foldl disjoin first).truthIn db row = .ok (some true) ↔
      ∃ e ∈ first :: rest, e.truthIn db row = .ok (some true) := by
  induction rest generalizing first with
  | nil => simp
  | cons second rest ih =>
    obtain ⟨l, left⟩ := total first (by simp)
    obtain ⟨r, right⟩ := total second (by simp)
    obtain ⟨t, joined, either⟩ := someTrue_ok l r
    have evaluated : (disjoin first second).truthIn db row = .ok t := by
      rw [truthIn_disjoin, left, right, joined]
    have step := ih (disjoin first second) (fun e member => by
      rcases List.mem_cons.1 member with rfl | later
      · exact ⟨t, evaluated⟩
      · exact total e (by simp [later]))
    simp only [List.foldl_cons, step, List.exists_mem_cons_iff, evaluated, left, right,
      Except.ok.injEq, either, or_assoc]

/-- A lookup in a table whose condition always has a truth value is true exactly where some row of
the table that satisfies the condition holds the value looked for. -/
theorem truthIn_inSubquery (db : Database) (row : Row) (c projection : Column) (source : String)
    (filter : Expr) {verdict : Row → Option Bool}
    (total : ∀ other, filter.truthIn db other = .ok (verdict other)) :
    ∃ t, (inSubquery (column c) projection source (some filter)).truthIn db row = .ok t ∧
      (t = some true ↔ ∃ other ∈ db source, verdict other = some true ∧
        ((row c).getD .null).equals ((other projection).getD .null) = some true) := by
  obtain ⟨t, member, found⟩ := memberOf_ok ((row c).getD .null) false
    (((db source).filter fun other => verdict other == some true).map fun other =>
      (other projection).getD .null)
  refine ⟨t, ?_, ?_⟩
  · have selected : rowsWhere (conditionIn db (some filter)) (db source) = _ :=
      rowsWhere_ok total (db source)
    simp only [truthIn, valueIn, selected, bind, Except.bind]
    rw [List.map_map] at member
    rw [show (fun other : Row => (Except.ok ((other projection).getD .null) : Eval Value)) =
      Except.ok ∘ fun other => (other projection).getD .null from rfl, member]
    exact congrArg Except.ok (Value.truth_ofTruth t)
  · rw [found]
    simp [and_assoc]

end Expr

end RowGuard.Sql
