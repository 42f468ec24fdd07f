import RowGuard.Proofs.Sql.Logic
/-!
Membership in a list as a disjunction of comparisons. Looking through a list evaluates the value
that is looked for once and keeps note of the NULLs it has met; a chain of disjunctions evaluates
that value for every item and knows nothing of items before. Both say the same of every row.
-/
namespace RowGuard.Sql

/-- Looking through a list is the disjunction of the comparisons with its items. What has been met
before counts as one more item in front. -/
theorem memberOf_eq_disjunction (needle : Value) (unknown : Bool) (values : List (Eval Value)) :
    memberOf needle unknown values =
      disjunctionOf (.ok (if unknown then none else some false) ::
        values.map (Except.map needle.equals)) := by
  induction values generalizing unknown with
  | nil => cases unknown <;> rfl
  | cons value rest ih =>
    rw [List.map_cons, disjunctionOf_cons, disjunctionOf_cons]
    cases value with
    | error fault => cases unknown <;> rfl
    | ok v =>
      have first : Except.map needle.equals (.ok v : Eval Value) = .ok (needle.equals v) := rfl
      rw [first]
      simp only [memberOf, bind, Except.bind]
      cases needle.equals v with
      | none =>
        have met : someTrue (.ok (if unknown then none else some false)) (.ok none) = .ok none := by
          cases unknown <;> rfl
        rw [← someTrue_assoc, met, ← disjunctionOf_cons]
        exact ih true
      | some same =>
        cases same with
        | false =>
          rw [someTrue_false_left, ← disjunctionOf_cons]
          exact ih unknown
        | true => cases unknown <;> rfl

theorem memberOf_false (needle : Value) (values : List (Eval Value)) :
    memberOf needle false values = disjunctionOf (values.map (Except.map needle.equals)) := by
  rw [memberOf_eq_disjunction, disjunctionOf_cons]
  exact someTrue_false_left _

namespace Expr

theorem valueEach_eq_map (row : Row) (es : List Expr) : valueEach row es = es.map (value row) := by
  induction es with
  | nil => rfl
  | cons e rest ih => rw [valueEach, ih, List.map_cons]

theorem truth_eq (row : Row) (left right : Expr) :
    (eq left right).truth row = do return (← left.value row).equals (← right.value row) := by
  simp only [truth, value]
  cases left.value row with
  | error fault => rfl
  | ok l =>
    cases right.value row with
    | error fault => rfl
    | ok r => exact congrArg Except.ok (Value.truth_ofTruth (l.equals r))

theorem truth_inValues (row : Row) (needle : Expr) (values : List Expr) :
    (inValues needle values).truth row =
      needle.value row >>= fun sought => memberOf sought false (valueEach row values) := by
  simp only [truth, value]
  cases needle.value row with
  | error fault => rfl
  | ok sought => exact truth_after_ofTruth (memberOf sought false (valueEach row values))

/-- Whether the scalar value of an expression is a truth value. -/
def isCondition : Expr → Bool
  | .column _ => false
  | .literal _ => false
  | .nested _ => false
  | .function _ _ => false
  | _ => true

theorem value_of_isCondition {e : Expr} (condition : e.isCondition = true) (row : Row) :
    e.value row = (e.truth row).map Value.ofTruth := by
  have back {r : Eval (Option Bool)} (same : e.value row = r.map Value.ofTruth) :
      e.value row = (e.truth row).map Value.ofTruth := by
    rw [truth, same, truth_after_ofTruth]
  cases e with
  | eq left right =>
    rw [truth_eq, value]
    cases left.value row with
    | error fault => rfl
    | ok l => cases right.value row <;> rfl
  | inValues needle values =>
    rw [truth_inValues, value]
    cases needle.value row with
    | error fault => rfl
    | ok sought => cases memberOf sought false (valueEach row values) <;> rfl
  | inSubquery needle projection source filter =>
    rw [truth, value]
    cases needle.value row <;> rfl
  | and left right => exact back (by rw [value])
  | or left right => exact back (by rw [value])
  | _ => cases condition

theorem isCondition_foldl_combine (c : Connective) {first : Expr} (rest : List Expr)
    (condition : first.isCondition = true) :
    (rest.foldl (combine c) first).isCondition = true := by
  induction rest generalizing first with
  | nil => exact condition
  | cons next rest ih => exact ih (by cases c <;> rfl)

theorem truth_inValues_cons (row : Row) (needle first : Expr) (rest : List Expr) :
    (inValues needle (first :: rest)).truth row =
      disjunctionOf (((first :: rest).map (eq needle)).map (truth row)) := by
  rw [truth_inValues]
  cases sought : needle.value row with
  | error fault =>
    have fails : (eq needle first).truth row = .error fault := by
      rw [truth_eq, sought]
      rfl
    rw [List.map_cons, List.map_cons, fails, disjunctionOf_cons]
    rfl
  | ok v =>
    have compared : Except.map v.equals ∘ value row = truth row ∘ eq needle := by
      funext item
      rw [Function.comp_apply, Function.comp_apply, truth_eq, sought]
      cases item.value row <;> rfl
    change memberOf v false (valueEach row (first :: rest)) = _
    rw [memberOf_false, valueEach_eq_map, List.map_map, List.map_map, compared]

/-- Membership in a list of values is the disjunction of the comparisons with them, on every row
and with every value or error that the value looked for and the items may have, also where it stands
as an operand itself. In the empty list nothing is found: the membership is false for whatever the
value looked for is, be it NULL, and where that has no value its error is passed on. -/
theorem in_is_or_of_equalities (row : Row) (e : Expr) (values : List Expr) :
    (values ≠ [] → ∃ chain, disjoinAll (values.map (eq e)) = some chain ∧
      (inValues e values).truth row = chain.truth row ∧
      (inValues e values).value row = chain.value row) ∧
    (inValues e []).truth row = (e.value row).map fun _ => some false := by
  constructor
  · intro nonempty
    obtain ⟨first, rest, rfl⟩ := List.exists_cons_of_ne_nil nonempty
    have truths : (inValues e (first :: rest)).truth row =
        ((rest.map (eq e)).foldl disjoin (eq e first)).truth row := by
      rw [truth_foldl_disjoin, truth_inValues_cons, List.map_cons]
    have chain : ((rest.map (eq e)).foldl disjoin (eq e first)).isCondition = true :=
      isCondition_foldl_combine .disjunction _ rfl
    refine ⟨_, rfl, truths, ?_⟩
    rw [value_of_isCondition rfl, truths, value_of_isCondition chain]
  · rw [truth_inValues]
    cases e.value row <;> rfl

/-- A NULL is met before a call that fails, and a match before the same call, which is then not
evaluated. -/
theorem in_is_or_of_equalities_faults :
    let row := Row.ofTable [("dept", .int 3), ("owner", .null)]
    let dept : Expr := .column (.bare "dept")
    let owner : Expr := .column (.bare "owner")
    let call : Expr := .function "LENGTH" []
    ([owner, call, int 3] ≠ [] ∧ ∃ chain,
      disjoinAll ([owner, call, int 3].map (eq dept)) = some chain ∧
      chain.truth row = .error (.unknownFunction "LENGTH")) ∧
    ([owner, text " 3 ", call] ≠ [] ∧ ∃ chain,
      disjoinAll ([owner, text " 3 ", call].map (eq dept)) = some chain ∧
      chain.truth row = .ok (some true)) := by
  intro row dept owner call
  have nonempty : [owner, call, int 3] ≠ [] := List.cons_ne_nil _ _
  have nonempty' : [owner, text " 3 ", call] ≠ [] := List.cons_ne_nil _ _
  obtain ⟨failing, joined, failed, -⟩ := (in_is_or_of_equalities row dept _).1 nonempty
  obtain ⟨matching, joined', matched, -⟩ := (in_is_or_of_equalities row dept _).1 nonempty'
  refine ⟨⟨nonempty, failing, joined, ?_⟩, nonempty', matching, joined', ?_⟩
  · rw [← failed]
    rfl
  · rw [← matched]
    rfl

end Expr

end RowGuard.Sql
