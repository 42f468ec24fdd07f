import RowGuard.Access.Resolution
import RowGuard.Proofs.Sql.Database
/-!
Which rows the roles of a user grant, said role by role over the content of a database, and that
the data scope of a caller admits exactly the union of these rows.
-/
namespace RowGuard

open Sql

/-- Whether a row holds a value under a column, as SQL compares. -/
def Holds (row : Row) (c : Column) (v : Value) : Prop :=
  ((row c).getD .null).equals v = some true

/-- Whether a list of ancestors names a department: its place in the list is a number other than
zero. -/
def ListsDept (ancestors : Value) (dept : DeptId) : Prop :=
  ∃ place, findInSet (.int dept.value) ancestors = .int place ∧ place ≠ 0

/-- The rows one role of a user grants. -/
def Role.Grants (db : Database) (user : User) (d : EntityDescriptor) (row : Row) (role : Role) :
    Prop :=
  match role.scope with
  | .all => True
  | .dept => Holds row d.deptColumn (.int user.dept.value)
  | .ownRows => Holds row d.ownerColumn (.int user.id.value)
  | .deptAndChild =>
    ∃ dept ∈ db d.deptTable, Holds row d.deptColumn ((dept (.bare d.idColumn)).getD .null) ∧
      (Holds dept (.bare d.idColumn) (.int user.dept.value) ∨
        ListsDept ((dept (.bare d.ancestorsColumn)).getD .null) user.dept)
  | .custom =>
    ∃ link ∈ db d.roleDeptTable, Holds link (.bare d.roleIdColumn) (.int role.id.value) ∧
      Holds row d.deptColumn ((link (.bare d.deptIdColumn)).getD .null)

theorem Role.grants_congr {db : Database} {user : User} {d : EntityDescriptor} {row : Row}
    {a b : Role} (same : a.scope = b.scope) (general : a.scope ≠ .custom)
    (granted : a.Grants db user d row) : b.Grants db user d row := by
  unfold Role.Grants at granted ⊢
  rw [same] at granted general
  cases scope : b.scope with
  | custom => exact absurd scope general
  | _ =>
    rw [scope] at granted
    exact granted

theorem truth_findInSet (ancestors : Value) (dept : DeptId) :
    (findInSet (.int dept.value) ancestors).truth = some true ↔ ListsDept ancestors dept := by
  unfold ListsDept findInSet
  cases ancestors.toText? <;> simp [Value.toText?, Value.truth]

theorem truthIn_deptTree (db : Database) (dept : DeptId) (d : EntityDescriptor) (row : Row) :
    ∃ t, (Expr.disjoin (.columnEq (.bare d.idColumn) (.int dept.value))
        (.function "FIND_IN_SET" [.int dept.value, .column (.bare d.ancestorsColumn)])).truthIn
          db row = .ok t ∧
      (t = some true ↔ Holds row (.bare d.idColumn) (.int dept.value) ∨
        ListsDept ((row (.bare d.ancestorsColumn)).getD .null) dept) := by
  rw [Expr.truthIn_disjoin, Expr.truthIn_columnEq]
  have listed : (Expr.function "FIND_IN_SET"
      [.int dept.value, .column (.bare d.ancestorsColumn)]).truthIn db row =
        .ok (findInSet (.int dept.value) ((row (.bare d.ancestorsColumn)).getD .null)).truth := by
    have called : Text.sameLetters "FIND_IN_SET" "FIND_IN_SET" = true := by decide
    simp only [Expr.truthIn, Expr.int, Expr.valueIn, Expr.valueEachIn,
      callFunction_findInSet called]
    rfl
  rw [listed, ← truth_findInSet]
  exact someTrue_ok _ _

theorem Role.condition_cases {user : User} {d : EntityDescriptor} {role : Role} {e : Expr}
    (condition : role.condition user d = some e) :
    (role.scope = .custom ∧ e = linkedDeptCondition role.id d) ∨
      (role.scope = .dept ∧ e = .columnEq d.deptColumn (.int user.dept.value)) ∨
      (role.scope = .deptAndChild ∧ e = deptTreeCondition user.dept d) ∨
      (role.scope = .ownRows ∧ e = .columnEq d.ownerColumn (.int user.id.value)) := by
  unfold Role.condition at condition
  cases scope : role.scope with
  | all => simp [scope] at condition
  | _ =>
    simp only [scope, Option.some.injEq] at condition
    simp [condition]

theorem Role.exists_condition {user : User} {d : EntityDescriptor} {role : Role}
    (limited : role.scope ≠ .all) : ∃ e, role.condition user d = some e := by
  unfold condition
  cases scope : role.scope with
  | all => exact absurd scope limited
  | _ => exact ⟨_, rfl⟩

theorem User.hasFullAccess_iff {user : User} :
    user.hasFullAccess = true ↔ ∃ role ∈ user.roles.toList, role.scope = .all := by
  simp [hasFullAccess]

/-- The condition of a role has a truth value on every row, and is true of exactly the rows the role
grants. -/
theorem Role.truthIn_condition (db : Database) (user : User) (d : EntityDescriptor) (row : Row)
    {role : Role} {e : Expr} (condition : role.condition user d = some e) :
    ∃ t, e.truthIn db row = .ok t ∧ (t = some true ↔ role.Grants db user d row) := by
  unfold Role.Grants
  rcases condition_cases condition with
    ⟨scope, rfl⟩ | ⟨scope, rfl⟩ | ⟨scope, rfl⟩ | ⟨scope, rfl⟩ <;> simp only [scope]
  · obtain ⟨t, evaluated, found⟩ :=
      Expr.truthIn_inSubquery db row d.deptColumn (.bare d.deptIdColumn) d.roleDeptTable _
        (Expr.truthIn_columnEq db (.bare d.roleIdColumn) (.int role.id.value))
    exact ⟨t, evaluated, found⟩
  · rw [Expr.truthIn_columnEq]
    exact ⟨_, rfl, .rfl⟩
  · choose verdict total accepted using truthIn_deptTree db user.dept d
    obtain ⟨t, evaluated, found⟩ :=
      Expr.truthIn_inSubquery db row d.deptColumn (.bare d.idColumn) d.deptTable _ total
    refine ⟨t, evaluated, found.trans ?_⟩
    simp only [accepted, Holds, and_comm]
  · rw [Expr.truthIn_columnEq]
    exact ⟨_, rfl, .rfl⟩

theorem not_admits_never (db : Database) (row : Row) : ¬db.Admits (some Expr.never) row := by
  intro admitted
  have evaluated := admitted Expr.never rfl
  simp only [Expr.truthIn, Expr.never, Expr.int, Expr.valueIn] at evaluated
  exact absurd evaluated (by decide)

theorem contributing_sublist (seen : List DataScope) (roles : List Role) :
    (contributing seen roles).Sublist roles := by
  induction roles generalizing seen with
  | nil => exact .slnil
  | cons role rest ih =>
    rw [contributing]
    split_ifs
    · exact (ih seen).cons_cons role
    · exact (ih seen).cons role
    · exact (ih (role.scope :: seen)).cons_cons role

/-- What depends on the scope of a role alone, departments of its own aside, holds of a role whose
condition counts if it holds of any role with a scope not met before. -/
theorem exists_contributing {P : Role → Prop}
    (congr : ∀ {a b : Role}, a.scope = b.scope → a.scope ≠ .custom → P a → P b)
    (seen : List DataScope) {roles : List Role} {role : Role} (member : role ∈ roles)
    (holds : P role) (fresh : role.scope ∈ seen → role.scope = .custom) :
    ∃ kept ∈ contributing seen roles, P kept := by
  induction roles generalizing seen with
  | nil => cases member
  | cons first rest ih =>
    rw [contributing]
    rcases List.mem_cons.1 member with rfl | later
    · refine ⟨role, ?_, holds⟩
      by_cases own : role.scope = .custom
      · simp [own]
      · have unmet : role.scope ∉ seen := fun met => own (fresh met)
        simp [own, unmet]
    · split_ifs with own met
      · obtain ⟨kept, among, keptHolds⟩ := ih seen later fresh
        exact ⟨kept, List.mem_cons_of_mem _ among, keptHolds⟩
      · exact ih seen later fresh
      · -- Either `role` repeats the scope of `first`, or it is still fresh behind it.
        by_cases same : role.scope = first.scope
        · exact ⟨first, List.mem_cons_self, congr same (same ▸ own) holds⟩
        · obtain ⟨kept, among, keptHolds⟩ := ih (first.scope :: seen) later (fun met =>
            fresh ((List.mem_cons.1 met).resolve_left same))
          exact ⟨kept, List.mem_cons_of_mem _ among, keptHolds⟩

theorem User.exists_condition (db : Database) (user : User) (d : EntityDescriptor) (row : Row)
    (limited : ∀ role ∈ user.roles.toList, role.scope ≠ .all) :
    (∃ e ∈ user.conditions d, e.truthIn db row = .ok (some true)) ↔
      ∃ role ∈ user.roles.toList, role.Grants db user d row := by
  unfold conditions
  constructor
  · rintro ⟨e, member, accepted⟩
    obtain ⟨role, counts, condition⟩ := List.mem_filterMap.1 member
    obtain ⟨t, evaluated, granted⟩ := Role.truthIn_condition db user d row condition
    rw [evaluated, Except.ok.injEq] at accepted
    exact ⟨role, (contributing_sublist [] _).subset counts, granted.1 accepted⟩
  · rintro ⟨role, member, granted⟩
    obtain ⟨kept, counts, keptGranted⟩ :=
      exists_contributing Role.grants_congr [] member granted (by simp)
    obtain ⟨e, condition⟩ : ∃ e, kept.condition user d = some e :=
      Role.exists_condition (limited kept ((contributing_sublist [] _).subset counts))
    obtain ⟨t, evaluated, accepted⟩ := Role.truthIn_condition db user d row condition
    refine ⟨e, List.mem_filterMap.2 ⟨kept, counts, condition⟩, ?_⟩
    rw [evaluated, accepted.2 keptGranted]

/-- The predicate of a user is true of exactly the rows some role of the user grants, and a user
without a predicate sees every row because some role grants every row. -/
theorem User.admits_resolve (db : Database) (user : User) (d : EntityDescriptor) (row : Row) :
    db.Admits (user.resolve d).predicate row ↔
      ∃ role ∈ user.roles.toList, role.Grants db user d row := by
  unfold resolve
  by_cases full : user.hasFullAccess = true
  · obtain ⟨role, member, everything⟩ := hasFullAccess_iff.1 full
    rw [if_pos full]
    refine ⟨fun _ => ⟨role, member, ?_⟩, fun _ e absent => by cases absent⟩
    rw [Role.Grants, everything]
    trivial
  · have limited : ∀ role ∈ user.roles.toList, role.scope ≠ .all := by
      simpa [hasFullAccess] using full
    rw [if_neg full, ← exists_condition db user d row limited]
    have total : ∀ e ∈ user.conditions d, ∃ t, e.truthIn db row = .ok t := by
      intro e member
      obtain ⟨role, _, condition⟩ := List.mem_filterMap.1 member
      obtain ⟨t, evaluated, _⟩ := Role.truthIn_condition db user d row condition
      exact ⟨t, evaluated⟩
    cases conditions : user.conditions d with
    | nil => simp [Expr.disjoinAll, Resolution.predicate, not_admits_never]
    | cons first rest =>
      rw [conditions] at total
      have joined := Expr.truthIn_foldl_disjoin db row first rest total
      simpa [Expr.disjoinAll, Resolution.predicate, Database.Admits] using joined

/-- The data scope of a caller is the union of what the roles grant. Over any content of the tables,
an unrestricted statement that gets the data scope of a caller admits exactly the rows some role of
the caller grants: no row for a user without roles, and none without a user. Conditions are read by
the evaluator in memory, extended by the meaning of subqueries and changed nowhere else. -/
theorem dataScope_is_union (db : Database) (user : Option User) (d : EntityDescriptor) (row : Row) :
    (db.Admits (applyDataScope none user d) row ↔
      ∃ u, user = some u ∧ ∃ role ∈ u.roles.toList, role.Grants db u d row) ∧
    ∀ e : Expr, Completes (e.truthIn db row) (e.truth row) := by
  refine ⟨?_, fun e => (Expr.valueIn_completes db row e).map Value.truth⟩
  have alone : applyDataScope none user d = (resolveFor user d).predicate := by
    unfold applyDataScope
    cases (resolveFor user d).predicate <;> rfl
  rw [alone]
  cases user with
  | none => simpa [resolveFor, Resolution.predicate] using not_admits_never db row
  | some u => simpa [resolveFor] using u.admits_resolve db d row

end RowGuard
