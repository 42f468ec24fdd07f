import RowGuard.Proofs.Access.Resolution
/-!
Users with more roles see no fewer rows. The conditions of a user are joined by disjunctions, and
those of a user with more roles are among them again, so a row that was accepted is accepted still,
unless evaluation meets a lookup in another table before it comes to the condition that accepts.
-/
namespace RowGuard

open Sql

def DataScope.looksUp : DataScope → Bool
  | .custom => true
  | .deptAndChild => true
  | _ => false

/-- Evaluating the conditions of a user on a row comes to the lookup of a role, for none of the
conditions in front of it accepts the row. -/
def User.ReachesLookup (user : User) (d : EntityDescriptor) (row : Row) (text : String) : Prop :=
  ∃ role ∈ user.roles.toList, role.scope.looksUp = true ∧
    ∃ front lookup back, user.conditions d = front ++ lookup :: back ∧
      role.condition user d = some lookup ∧ lookup.truth row = .error (.subquery text) ∧
      ∀ e ∈ front, ∃ t, e.truth row = .ok t ∧ t ≠ some true

/-- In memory a lookup has no result, and the other conditions have one on every row. -/
theorem Role.truth_condition {user : User} {d : EntityDescriptor} {role : Role} {e : Expr}
    (condition : role.condition user d = some e) (row : Row) :
    (role.scope.looksUp = true ∧ ∃ text, e.truth row = .error (.subquery text)) ∨
      (role.scope.looksUp = false ∧ ∃ t, e.truth row = .ok t) := by
  rcases condition_cases condition with
    ⟨scope, rfl⟩ | ⟨scope, rfl⟩ | ⟨scope, rfl⟩ | ⟨scope, rfl⟩ <;> rw [scope]
  · exact .inl ⟨rfl, _, rfl⟩
  · rw [Expr.truth_columnEq]
    exact .inr ⟨rfl, _, rfl⟩
  · exact .inl ⟨rfl, _, rfl⟩
  · rw [Expr.truth_columnEq]
    exact .inr ⟨rfl, _, rfl⟩

namespace User

variable {d : EntityDescriptor} {row : Row}

theorem verdict_resolve {user : User} (limited : ¬user.hasFullAccess = true) :
    Expr.verdict row (user.resolve d).predicate =
      disjunctionOf ((user.conditions d).map (Expr.truth row)) := by
  rw [resolve, if_neg limited]
  cases user.conditions d with
  | nil => rfl
  | cons first rest => exact Expr.truth_foldl_disjoin row first rest

theorem verdict_applyDataScope (existing : Option Expr) (user : User) :
    Expr.verdict row (applyDataScope existing (some user) d) =
      bothTrue (Expr.verdict row existing) (Expr.verdict row (user.resolve d).predicate) := by
  unfold applyDataScope resolveFor
  cases (user.resolve d).predicate with
  | none => rw [Expr.verdict, bothTrue_true_right]
  | some predicate => exact Expr.truth_restrict row existing predicate

theorem conditions_grow {fewer more : User} (sameId : more.id = fewer.id)
    (sameDept : more.dept = fewer.dept)
    (gains : ∀ role ∈ fewer.roles.toList, role ∈ more.roles.toList) {e : Expr}
    (member : e ∈ fewer.conditions d) : e ∈ more.conditions d := by
  obtain ⟨role, counts, condition⟩ := List.mem_filterMap.1 member
  have held := gains role ((contributing_sublist [] _).subset counts)
  have limited : role.scope ≠ .all := by
    intro everything
    rw [Role.condition, everything] at condition
    cases condition
  have same : role.condition more d = role.condition fewer d := by
    unfold Role.condition
    rw [sameId, sameDept]
  obtain ⟨leaf, among, leafCondition⟩ := exists_leaf (d := d) held limited
  rw [same, condition] at leafCondition
  cases leafCondition
  rw [conditions_eq]
  exact among

theorem verdict_grows {fewer more : User} (sameId : more.id = fewer.id)
    (sameDept : more.dept = fewer.dept)
    (gains : ∀ role ∈ fewer.roles.toList, role ∈ more.roles.toList)
    (accepted : Expr.verdict row (fewer.resolve d).predicate = .ok (some true)) :
    Expr.verdict row (more.resolve d).predicate = .ok (some true) ∨
      ∃ text, Expr.verdict row (more.resolve d).predicate = .error (.subquery text) ∧
        more.ReachesLookup d row text := by
  by_cases full : more.hasFullAccess = true
  · rw [resolve, if_pos full]
    exact .inl rfl
  · have limited : ¬fewer.hasFullAccess = true := by
      intro fewerFull
      obtain ⟨role, member, everything⟩ := hasFullAccess_iff.1 fewerFull
      exact full (hasFullAccess_iff.2 ⟨role, gains role member, everything⟩)
    rw [verdict_resolve limited] at accepted
    obtain ⟨e, member, accepts⟩ := List.mem_map.1 (mem_of_disjunctionOf accepted)
    have among := conditions_grow sameId sameDept gains member
    obtain ⟨front, decisive, back, split, before, decides, result⟩ :=
      Expr.exists_decisive among accepts
    rw [verdict_resolve full, result]
    obtain ⟨role, counts, condition⟩ : ∃ role ∈ contributing [] more.roles.toList,
        role.condition more d = some decisive := by
      have linked : decisive ∈ more.conditions d := by simp [split]
      exact List.mem_filterMap.1 linked
    rcases Role.truth_condition condition row with ⟨looksUp, text, fault⟩ | ⟨-, t, evaluated⟩
    · exact .inr ⟨text, fault, role, (contributing_sublist [] _).subset counts, looksUp, front,
        decisive, back, split, condition, fault, before⟩
    · rw [evaluated] at decides ⊢
      exact .inl (congrArg Except.ok (eq_of_beq decides))

end User

/-- Granting more roles never hides a row. Take two users with the same ids of whom the second has
the roles of the first and perhaps more. If the filter that the first one gets accepts a row, or is
absent, then the filter of the second is absent, or accepts the row, or has no result because a
lookup of departments in another table was reached before a condition accepted the row. -/
theorem more_roles_hide_nothing (existing : Option Expr) (d : EntityDescriptor) (row : Row)
    {fewer more : User} (sameId : more.id = fewer.id) (sameDept : more.dept = fewer.dept)
    (gains : ∀ role ∈ fewer.roles.toList, role ∈ more.roles.toList)
    (accepted : ∀ f, applyDataScope existing (some fewer) d = some f → row.matches f = .ok true) :
    applyDataScope existing (some more) d = none ∨
      ∃ f, applyDataScope existing (some more) d = some f ∧
        (row.matches f = .ok true ∨
          ∃ text, row.matches f = .error (.subquery text) ∧ more.ReachesLookup d row text) := by
  have verdict : Expr.verdict row (applyDataScope existing (some fewer) d) = .ok (some true) := by
    cases filter : applyDataScope existing (some fewer) d with
    | none => rfl
    | some f => exact Row.matches_eq_true.1 (accepted f filter)
  rw [User.verdict_applyDataScope] at verdict
  obtain ⟨kept, granted⟩ := bothTrue_eq_true.1 verdict
  have grown := User.verdict_grows sameId sameDept gains granted
  have same : Expr.verdict row (applyDataScope existing (some more) d) =
      Expr.verdict row (more.resolve d).predicate := by
    rw [User.verdict_applyDataScope, kept, bothTrue_true_left]
  rw [← same] at grown
  cases filter : applyDataScope existing (some more) d with
  | none => exact .inl rfl
  | some f =>
    rw [filter, Expr.verdict] at grown
    refine .inr ⟨f, rfl, ?_⟩
    rcases grown with accepts | ⟨text, fault, reached⟩
    · exact .inl (Row.matches_eq_true.2 accepts)
    · exact .inr ⟨text, by rw [Row.matches, fault]; rfl, reached⟩

/-- A user who owns a row gets two more roles, and the lookup of one of them comes first. -/
theorem more_roles_hide_nothing_lookup :
    let fewer : User := ⟨⟨7⟩, ⟨3⟩, .ofList [⟨⟨5⟩, .ownRows⟩]⟩
    let more : User := ⟨⟨7⟩, ⟨3⟩, .ofList [⟨⟨5⟩, .ownRows⟩, ⟨⟨2⟩, .deptAndChild⟩, ⟨⟨1⟩, .dept⟩]⟩
    let existing : Option Expr := some (.columnEq (.bare "status") (.text "open"))
    let row := Row.ofTable [("dept_id", .int 4), ("status", .text "open"), ("user_id", .int 7)]
    (∀ f, applyDataScope existing (some fewer) .standard = some f → row.matches f = .ok true) ∧
      ∃ f text, applyDataScope existing (some more) .standard = some f ∧
        row.matches f = .error (.subquery text) ∧ more.ReachesLookup .standard row text := by
  intro fewer more existing row
  have accepted : ∀ f, applyDataScope existing (some fewer) .standard = some f →
      row.matches f = .ok true := by
    rintro f ⟨⟩
    decide +kernel
  have gains : ∀ role ∈ fewer.roles.toList, role ∈ more.roles.toList := by decide
  refine ⟨accepted, ?_⟩
  rcases @more_roles_hide_nothing existing .standard row fewer more rfl rfl gains accepted with
    absent | ⟨f, filter, accepts | ⟨text, fault, reached⟩⟩
  · cases absent
  · cases filter
    exact absurd accepts (by decide +kernel)
  · exact ⟨f, text, filter, fault, reached⟩

end RowGuard
