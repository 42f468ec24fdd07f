import RowGuard.Sql.Combine
import RowGuard.Sql.Eval
/-!
Conjunction and disjunction with three truth values and errors. A conjunction read from the left is
decided by its first part that is false or an error; without one it is unknown if any part is
unknown, and true otherwise. The combinators of expressions add no meaning of their own: whatever
they group, the joined tree evaluates to the conjunction or disjunction of the parts.
-/
namespace RowGuard.Sql

def decidesConjunction : Eval (Option Bool) → Bool
  | .error _ => true
  | .ok t => t == some false

def isUnknown : Eval (Option Bool) → Bool
  | .ok none => true
  | _ => false

/-- The conjunction of results from the left. The first that is false or an error decides; otherwise
it is unknown if any result is unknown, and true if none is. -/
def conjunctionOf (results : List (Eval (Option Bool))) : Eval (Option Bool) :=
  match results.find? decidesConjunction with
  | some decisive => decisive
  | none => .ok (if results.any isUnknown then none else some true)

theorem bothTrue_true_left (r : Eval (Option Bool)) : bothTrue (.ok (some true)) r = r := by
  rcases r with e | _ | _ | _ <;> rfl

theorem bothTrue_true_right (r : Eval (Option Bool)) : bothTrue r (.ok (some true)) = r := by
  rcases r with e | _ | _ | _ <;> rfl

theorem bothTrue_assoc (a b c : Eval (Option Bool)) :
    bothTrue (bothTrue a b) c = bothTrue a (bothTrue b c) := by
  rcases a with e | _ | _ | _
  · rfl
  · rcases b with e | _ | _ | _ <;> rcases c with e | _ | _ | _ <;> rfl
  · rfl
  · rw [bothTrue_true_left, bothTrue_true_left]

theorem someTrue_false_left (r : Eval (Option Bool)) : someTrue (.ok (some false)) r = r := by
  rcases r with e | _ | _ | _ <;> rfl

theorem someTrue_assoc (a b c : Eval (Option Bool)) :
    someTrue (someTrue a b) c = someTrue a (someTrue b c) := by
  rcases a with e | _ | _ | _
  · rfl
  · rcases b with e | _ | _ | _ <;> rcases c with e | _ | _ | _ <;> rfl
  · rw [someTrue_false_left, someTrue_false_left]
  · rfl

theorem bothTrue_ok (l r : Option Bool) :
    ∃ t, bothTrue (.ok l) (.ok r) = .ok t ∧ (t = some false ↔ l = some false ∨ r = some false) := by
  rcases l with _ | _ | _ <;> rcases r with _ | _ | _ <;> exact ⟨_, rfl, by decide⟩

def denied (r : Eval (Option Bool)) : Eval (Option Bool) := r.map (Option.map not)

theorem denied_denied (r : Eval (Option Bool)) : denied (denied r) = r := by
  rcases r with e | _ | _ | _ <;> rfl

theorem someTrue_eq_denied (l r : Eval (Option Bool)) :
    someTrue l r = denied (bothTrue (denied l) (denied r)) := by
  rcases l with e | _ | _ | _
  · rfl
  · rcases r with e | _ | _ | _ <;> rfl
  · rcases r with e | _ | _ | _ <;> rfl
  · rfl

theorem bothTrue_eq_true {a b : Eval (Option Bool)} :
    bothTrue a b = .ok (some true) ↔ a = .ok (some true) ∧ b = .ok (some true) := by
  constructor
  · intro holds
    rcases a with e | _ | _ | _
    · cases holds
    · rcases b with e | _ | _ | _ <;> cases holds
    · cases holds
    · exact ⟨rfl, (bothTrue_true_left b).symm.trans holds⟩
  · rintro ⟨rfl, rfl⟩
    rfl

theorem conjunctionOf_nil : conjunctionOf [] = .ok (some true) := rfl

theorem conjunctionOf_cons (r : Eval (Option Bool)) (rest : List (Eval (Option Bool))) :
    conjunctionOf (r :: rest) = bothTrue r (conjunctionOf rest) := by
  cases found : rest.find? decidesConjunction with
  | some decisive =>
    have decides := List.find?_some found
    rcases r with e | _ | _ | _
    · rfl
    · rcases decisive with e | _ | _ | _
      · simp [conjunctionOf, decidesConjunction, found, bothTrue, bind, Except.bind]
      · cases decides
      · simp [conjunctionOf, decidesConjunction, found, bothTrue, bind, Except.bind, pure,
          Except.pure]
      · cases decides
    · rfl
    · rw [bothTrue_true_left]
      simp [conjunctionOf, decidesConjunction, found]
  | none =>
    rcases r with e | _ | _ | _
    · rfl
    · by_cases unknown : rest.any isUnknown = true <;>
        simp [conjunctionOf, decidesConjunction, isUnknown, found, unknown, bothTrue, bind,
          Except.bind, pure, Except.pure]
    · rfl
    · rw [bothTrue_true_left]
      simp [conjunctionOf, decidesConjunction, isUnknown, found]

def decidesDisjunction : Eval (Option Bool) → Bool
  | .error _ => true
  | .ok t => t == some true

/-- The disjunction of results from the left. The first that is true or an error decides; otherwise
it is unknown if any result is unknown, and false if none is. -/
def disjunctionOf (results : List (Eval (Option Bool))) : Eval (Option Bool) :=
  match results.find? decidesDisjunction with
  | some decisive => decisive
  | none => .ok (if results.any isUnknown then none else some false)

theorem disjunctionOf_eq_denied (results : List (Eval (Option Bool))) :
    disjunctionOf results = denied (conjunctionOf (results.map denied)) := by
  have decides : decidesConjunction ∘ denied = decidesDisjunction := by
    funext r
    rcases r with e | _ | _ | _ <;> rfl
  have unknown : isUnknown ∘ denied = isUnknown := by
    funext r
    rcases r with e | _ | _ | _ <;> rfl
  rw [disjunctionOf, conjunctionOf, List.find?_map, List.any_map, decides, unknown]
  cases results.find? decidesDisjunction with
  | some decisive => exact (denied_denied decisive).symm
  | none => cases results.any isUnknown <;> rfl

theorem disjunctionOf_cons (r : Eval (Option Bool)) (rest : List (Eval (Option Bool))) :
    disjunctionOf (r :: rest) = someTrue r (disjunctionOf rest) := by
  rw [disjunctionOf_eq_denied, disjunctionOf_eq_denied, List.map_cons, conjunctionOf_cons,
    someTrue_eq_denied, denied_denied]

theorem disjunctionOf_singleton (r : Eval (Option Bool)) : disjunctionOf [r] = r := by
  rcases r with e | _ | _ | _ <;> rfl

theorem mem_of_disjunctionOf {results : List (Eval (Option Bool))}
    (holds : disjunctionOf results = .ok (some true)) : .ok (some true) ∈ results := by
  unfold disjunctionOf at holds
  split at holds
  · next decisive found =>
    rw [← holds]
    exact List.mem_of_find?_eq_some found
  · split at holds <;> cases holds

/-- The two connectives, which differ in the truth value that decides. -/
inductive Connective where
  | conjunction
  | disjunction
  deriving DecidableEq

namespace Connective

def apply : Connective → Eval (Option Bool) → Eval (Option Bool) → Eval (Option Bool)
  | conjunction => bothTrue
  | disjunction => someTrue

def whole : Connective → List (Eval (Option Bool)) → Eval (Option Bool)
  | conjunction => conjunctionOf
  | disjunction => disjunctionOf

theorem whole_cons (c : Connective) (r : Eval (Option Bool)) (rest : List (Eval (Option Bool))) :
    c.whole (r :: rest) = c.apply r (c.whole rest) := by
  cases c with
  | conjunction => exact conjunctionOf_cons r rest
  | disjunction => exact disjunctionOf_cons r rest

theorem apply_assoc (c : Connective) (p q r : Eval (Option Bool)) :
    c.apply (c.apply p q) r = c.apply p (c.apply q r) := by
  cases c with
  | conjunction => exact bothTrue_assoc p q r
  | disjunction => exact someTrue_assoc p q r

theorem apply_whole_nil (c : Connective) (r : Eval (Option Bool)) :
    c.apply (c.whole []) r = r := by
  cases c with
  | conjunction => exact bothTrue_true_left r
  | disjunction => exact someTrue_false_left r

theorem whole_singleton (c : Connective) (r : Eval (Option Bool)) : c.whole [r] = r := by
  cases c with
  | conjunction => exact (conjunctionOf_cons r []).trans (bothTrue_true_right r)
  | disjunction => exact disjunctionOf_singleton r

theorem whole_append (c : Connective) (front back : List (Eval (Option Bool))) :
    c.whole (front ++ back) = c.apply (c.whole front) (c.whole back) := by
  induction front with
  | nil => exact (c.apply_whole_nil _).symm
  | cons r front ih => rw [List.cons_append, whole_cons, ih, whole_cons, apply_assoc]

end Connective

theorem truth_after_ofTruth (r : Eval (Option Bool)) :
    (r.map Value.ofTruth).map Value.truth = r := by
  rcases r with e | t
  · rfl
  · exact congrArg Except.ok (Value.truth_ofTruth t)

namespace Expr

theorem truth_and (row : Row) (a b : Expr) :
    (Expr.and a b).truth row = bothTrue (a.truth row) (b.truth row) := by
  simp only [truth, value]
  exact truth_after_ofTruth _

theorem truth_or (row : Row) (a b : Expr) :
    (Expr.or a b).truth row = someTrue (a.truth row) (b.truth row) := by
  simp only [truth, value]
  exact truth_after_ofTruth _

theorem truth_nested (row : Row) (e : Expr) : (nested e).truth row = e.truth row := by
  simp only [truth, value]

theorem truth_grouped (row : Row) (e : Expr) : (grouped e).truth row = e.truth row := by
  cases e <;> simp only [grouped, truth_nested]

theorem truth_operand (row : Row) (apart : Bool) (e : Expr) :
    (if apart then grouped e else e).truth row = e.truth row := by
  cases apart
  · rfl
  · exact truth_grouped row e

theorem truth_conjoin (row : Row) (a b : Expr) :
    (conjoin a b).truth row = bothTrue (a.truth row) (b.truth row) := by
  rw [conjoin, truth_and, truth_operand, truth_operand]

theorem truth_disjoin (row : Row) (a b : Expr) :
    (disjoin a b).truth row = someTrue (a.truth row) (b.truth row) := by
  rw [disjoin, truth_or, truth_operand, truth_operand]

def combine : Connective → Expr → Expr → Expr
  | .conjunction => conjoin
  | .disjunction => disjoin

theorem truth_combine (row : Row) (c : Connective) (a b : Expr) :
    (combine c a b).truth row = c.apply (a.truth row) (b.truth row) := by
  cases c with
  | conjunction => exact truth_conjoin row a b
  | disjunction => exact truth_disjoin row a b

theorem truth_foldl_combine (row : Row) (c : Connective) (first : Expr) (rest : List Expr) :
    (rest.foldl (combine c) first).truth row = c.whole ((first :: rest).map (truth row)) := by
  induction rest generalizing first with
  | nil => exact (c.whole_singleton _).symm
  | cons next rest ih =>
    rw [List.foldl_cons, ih, List.map_cons, List.map_cons, List.map_cons, Connective.whole_cons,
      Connective.whole_cons, Connective.whole_cons, truth_combine, Connective.apply_assoc]

theorem truth_foldl_disjoin (row : Row) (first : Expr) (rest : List Expr) :
    (rest.foldl disjoin first).truth row = disjunctionOf ((first :: rest).map (truth row)) :=
  truth_foldl_combine row .disjunction first rest

/-- If a link accepts a row, the chain says what its first link that accepts or fails says. -/
theorem exists_decisive {row : Row} {links : List Expr} {accepting : Expr}
    (member : accepting ∈ links) (accepts : accepting.truth row = .ok (some true)) :
    ∃ front e back, links = front ++ e :: back ∧
      (∀ other ∈ front, ∃ t, other.truth row = .ok t ∧ t ≠ some true) ∧
      decidesDisjunction (e.truth row) = true ∧
      disjunctionOf (links.map (truth row)) = e.truth row := by
  have decided : ∃ e, links.find? (decidesDisjunction ∘ truth row) = some e := by
    refine Option.isSome_iff_exists.1 (List.find?_isSome.2 ⟨accepting, member, ?_⟩)
    rw [Function.comp_apply, accepts]
    rfl
  obtain ⟨e, found⟩ := decided
  obtain ⟨decides, front, back, split, before⟩ := List.find?_eq_some_iff_append.1 found
  refine ⟨front, e, back, split, fun other earlier => ?_, decides, ?_⟩
  · have undecided := before other earlier
    rw [Function.comp_apply] at undecided
    cases result : other.truth row with
    | error fault =>
      rw [result] at undecided
      cases undecided
    | ok t =>
      refine ⟨t, rfl, ?_⟩
      rintro rfl
      rw [result] at undecided
      cases undecided
  · rw [disjunctionOf, List.find?_map, found]
    rfl

theorem truth_columnEq (row : Row) (c : Column) (v : Value) :
    (columnEq c v).truth row = .ok (((row c).getD .null).equals v) := by
  simp only [truth, columnEq, value]
  exact congrArg Except.ok (Value.truth_ofTruth _)

/-- What a filter says of a row. Without a filter every row is accepted. -/
def verdict (row : Row) : Option Expr → Eval (Option Bool)
  | none => .ok (some true)
  | some e => e.truth row

theorem truth_restrict (row : Row) (existing : Option Expr) (predicate : Expr) :
    (restrict existing predicate).truth row =
      bothTrue (verdict row existing) (predicate.truth row) := by
  cases existing with
  | none => rw [verdict, bothTrue_true_left, restrict]
  | some filter => rw [restrict, truth_conjoin, truth_grouped, verdict]

/-- Leaving out the absent filters does not change what a list of filters says together. -/
theorem conjunctionOf_present (row : Row) (filters : List (Option Expr)) :
    conjunctionOf ((filters.filterMap id).map (truth row)) =
      conjunctionOf (filters.map (verdict row)) := by
  induction filters with
  | nil => rfl
  | cons filter rest ih =>
    cases filter with
    | none =>
      have left : (none :: rest).filterMap id = rest.filterMap id := rfl
      rw [left, ih, List.map_cons, conjunctionOf_cons, verdict, bothTrue_true_left]
    | some e =>
      have left : (some e :: rest).filterMap id = e :: rest.filterMap id := rfl
      rw [left, List.map_cons, conjunctionOf_cons, ih, List.map_cons, conjunctionOf_cons, verdict]

end Expr

theorem Row.matches_eq_true {row : Row} {filter : Expr} :
    row.matches filter = .ok true ↔ filter.truth row = .ok (some true) := by
  unfold Row.matches
  rcases filter.truth row with e | _ | _ | _ <;> simp [Except.map]

end RowGuard.Sql
