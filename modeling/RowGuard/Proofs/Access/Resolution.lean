import RowGuard.Proofs.Access.Grants
/-!
The shape of what the roles of a user resolve to. The predicate of a user is a chain of disjunctions
from the left. Its links are the conditions of the roles that lead: every role with departments of
its own, and of the roles with another scope the one that comes first. How the roles were given to
the user does not matter.
-/
namespace RowGuard

open Sql

/-- No role of the same scope has a smaller id. -/
def Role.Leads (roles : List Role) (role : Role) : Prop :=
  ∀ other ∈ roles, other.scope = role.scope → role.id.value ≤ other.id.value

instance (roles : List Role) (role : Role) : Decidable (role.Leads roles) :=
  inferInstanceAs (Decidable (∀ other ∈ roles, other.scope = role.scope →
    role.id.value ≤ other.id.value))

/-- The roles whose conditions make up the predicate, in the order of the roles. -/
def User.leaders (user : User) : List Role :=
  user.roles.toList.filter fun role => role.scope = .custom ∨ role.Leads user.roles.toList

def User.leaves (user : User) (d : EntityDescriptor) : List Expr :=
  user.leaders.filterMap fun role => role.condition user d

theorem Role.compare_eq_lt {a b : Role} :
    compare a b = .lt ↔
      a.id.value < b.id.value ∨ a.id.value = b.id.value ∧ a.scope.rank < b.scope.rank := by
  have parts : compare a b =
      (compare a.id.value b.id.value).then (compare a.scope.rank b.scope.rank) := rfl
  rw [parts, Ordering.then_eq_lt, Std.compare_eq_lt, Std.compare_eq_lt, Std.compare_eq_iff_eq]

theorem Role.id_lt_of_before {a b : Role} (before : compare a b = .lt) (same : a.scope = b.scope) :
    a.id.value < b.id.value := by
  rcases Role.compare_eq_lt.1 before with smaller | ⟨-, rank⟩
  · exact smaller
  · rw [same] at rank
    exact absurd rank (Nat.lt_irrefl _)

theorem Role.leads_head {first : Role} {rest : List Role}
    (ascending : (first :: rest).Pairwise fun a b => compare a b = .lt) :
    first.Leads (first :: rest) := by
  intro other member same
  rcases List.mem_cons.1 member with rfl | later
  · exact Int64.le_refl _
  · have before := (List.pairwise_cons.1 ascending).1 other later
    exact Int64.le_of_lt (Role.id_lt_of_before before same.symm)

theorem Role.leads_behind {first role : Role} {rest : List Role}
    (ascending : (first :: rest).Pairwise fun a b => compare a b = .lt) (member : role ∈ rest) :
    role.Leads (first :: rest) ↔ first.scope ≠ role.scope ∧ role.Leads rest := by
  have before := (List.pairwise_cons.1 ascending).1 role member
  unfold Leads
  rw [List.forall_mem_cons]
  refine and_congr_left fun _ => ⟨fun bounded same => ?_, fun differs same => absurd same differs⟩
  exact Int64.not_le.2 (Role.id_lt_of_before before same) (bounded same)

/-- Going through the roles and leaving out the scopes met before keeps the roles that lead. -/
theorem contributing_eq_filter {roles : List Role} (seen : List DataScope)
    (ascending : roles.Pairwise fun a b => compare a b = .lt) :
    contributing seen roles = roles.filter fun role =>
      role.scope = .custom ∨ (role.scope ∉ seen ∧ role.Leads roles) := by
  induction roles generalizing seen with
  | nil => rfl
  | cons first rest ih =>
    have tail := (List.pairwise_cons.1 ascending).2
    have head := Role.leads_head ascending
    -- What is kept of the rest, by the scopes that count as met behind `first`.
    have behind (met : List DataScope)
        (same : ∀ role ∈ rest, role.scope ≠ .custom →
          (role.scope ∉ met ↔ role.scope ∉ seen ∧ first.scope ≠ role.scope)) :
        contributing met rest = rest.filter fun role =>
          role.scope = .custom ∨ (role.scope ∉ seen ∧ role.Leads (first :: rest)) := by
      rw [ih met tail]
      refine List.filter_congr fun role member => decide_eq_decide.2 ?_
      rw [Role.leads_behind ascending member, ← and_assoc]
      by_cases own : role.scope = .custom
      · simp [own]
      · rw [same role member own]
    rw [contributing, List.filter_cons]
    by_cases own : first.scope = .custom
    · rw [if_pos own, if_pos (by simp [own]), behind seen fun role _ general => ?_]
      have differs : first.scope ≠ role.scope := by
        rw [own]
        exact Ne.symm general
      exact (and_iff_left differs).symm
    · rw [if_neg own]
      by_cases met : first.scope ∈ seen
      · rw [if_pos (by simp [met]), if_neg (by simp [own, met]), behind seen fun role _ _ => ?_]
        have differs : role.scope ∉ seen → first.scope ≠ role.scope := by
          rintro fresh same
          rw [same] at met
          exact fresh met
        exact (and_iff_left_of_imp differs).symm
      · rw [if_neg (by simp [met]), if_pos (by simp [met, head]),
          behind (first.scope :: seen) fun role _ _ => ?_]
        simp only [List.mem_cons, not_or, and_comm, ne_eq, eq_comm]

theorem User.conditions_eq (user : User) (d : EntityDescriptor) :
    user.conditions d = user.leaves d := by
  rw [conditions, contributing_eq_filter [] user.roles.ascending]
  simp only [List.not_mem_nil, not_false_eq_true, true_and, leaves, leaders]

namespace Sql.Expr

mutual

/-- Whether there is no pair of parentheses of its own in an expression, nor in its subqueries. -/
def isUngrouped : Expr → Bool
  | .column _ => true
  | .literal _ => true
  | .eq left right => isUngrouped left && isUngrouped right
  | .inValues needle values => isUngrouped needle && areUngrouped values
  | .inSubquery needle _ _ filter => isUngrouped needle && isUngroupedFilter filter
  | .and left right => isUngrouped left && isUngrouped right
  | .or left right => isUngrouped left && isUngrouped right
  | .nested _ => false
  | .function _ arguments => areUngrouped arguments

def areUngrouped : List Expr → Bool
  | [] => true
  | e :: rest => isUngrouped e && areUngrouped rest

def isUngroupedFilter : Option Expr → Bool
  | none => true
  | some e => isUngrouped e

end

theorem foldl_disjoin_eq {first : Expr} {rest : List Expr}
    (noAnd : ∀ e ∈ first :: rest, e.isAnd = false) :
    rest.foldl disjoin first = rest.foldl .or first := by
  induction rest generalizing first with
  | nil => rfl
  | cons next rest ih =>
    have joined : disjoin first next = .or first next := by
      simp [disjoin, noAnd first, noAnd next]
    rw [List.foldl_cons, List.foldl_cons, joined]
    refine ih fun e member => ?_
    rcases List.mem_cons.1 member with rfl | later
    · rfl
    · exact noAnd e (by simp [later])

theorem isUngrouped_foldl_or {first : Expr} {rest : List Expr}
    (each : ∀ e ∈ first :: rest, e.isUngrouped = true) :
    (rest.foldl .or first).isUngrouped = true := by
  induction rest generalizing first with
  | nil => exact each first List.mem_cons_self
  | cons next rest ih =>
    refine ih fun e member => ?_
    rcases List.mem_cons.1 member with rfl | later
    · rw [isUngrouped, each first (by simp), each next (by simp), Bool.and_self]
    · exact each e (by simp [later])

end Sql.Expr

namespace Role

variable {user : User} {d : EntityDescriptor}

theorem condition_congr {a b : Role} (same : a.scope = b.scope) (general : a.scope ≠ .custom) :
    a.condition user d = b.condition user d := by
  unfold condition
  rw [same] at general ⊢
  cases scope : b.scope with
  | custom => exact absurd scope general
  | _ => rfl

theorem condition_simple {role : Role} {e : Expr} (condition : role.condition user d = some e) :
    e.isCompound = false ∧ e.isUngrouped = true := by
  rcases condition_cases condition with ⟨-, rfl⟩ | ⟨-, rfl⟩ | ⟨-, rfl⟩ | ⟨-, rfl⟩ <;>
    exact ⟨rfl, rfl⟩

end Role

/-- Whether the rows of the own department and the own rows are said by one comparison. -/
def User.OwnerIsDept (user : User) (d : EntityDescriptor) : Prop :=
  d.deptIdColumn = d.userIdColumn ∧ user.dept.value = user.id.value

theorem User.ownerIsDept_of_eq {user : User} {d : EntityDescriptor}
    (same : Expr.columnEq d.deptColumn (.int user.dept.value) =
      .columnEq d.ownerColumn (.int user.id.value)) : user.OwnerIsDept d := by
  simp only [Expr.columnEq, Expr.eq.injEq, Expr.column.injEq, Expr.literal.injEq,
    Value.int.injEq, EntityDescriptor.deptColumn, EntityDescriptor.ownerColumn, Column.qualified,
    Column.mk.injEq, true_and] at same
  exact same

theorem linkedDeptCondition_injective {d : EntityDescriptor} {a b : RoleId}
    (same : linkedDeptCondition a d = linkedDeptCondition b d) : a = b := by
  simp only [linkedDeptCondition, Expr.columnEq, Expr.inSubquery.injEq, Option.some.injEq,
    Expr.eq.injEq, Expr.literal.injEq, Value.int.injEq, true_and] at same
  obtain ⟨_⟩ := a
  obtain ⟨_⟩ := b
  exact congrArg RoleId.mk same

/-- Roles share a condition only if they share the scope, and the id too where it counts, or if one
comparison says both what the department and what the owner allows. -/
theorem Role.scope_of_condition_eq {user : User} {d : EntityDescriptor} {a b : Role} {e : Expr}
    (first : a.condition user d = some e) (second : b.condition user d = some e) :
    (a.scope = b.scope ∧ (a.scope = .custom → a.id = b.id)) ∨
      (user.OwnerIsDept d ∧ ((a.scope = .dept ∧ b.scope = .ownRows) ∨
        (a.scope = .ownRows ∧ b.scope = .dept))) := by
  have same : a.condition user d = b.condition user d := first.trans second.symm
  unfold condition at first same
  cases left : a.scope <;> cases right : b.scope <;>
    simp only [left, right, Option.some.injEq, reduceCtorEq] at first same
  case custom.custom => exact .inl ⟨rfl, fun _ => linkedDeptCondition_injective same⟩
  case dept.dept => exact .inl ⟨rfl, nofun⟩
  case deptAndChild.deptAndChild => exact .inl ⟨rfl, nofun⟩
  case ownRows.ownRows => exact .inl ⟨rfl, nofun⟩
  case dept.ownRows => exact .inr ⟨User.ownerIsDept_of_eq same, .inl ⟨rfl, rfl⟩⟩
  case ownRows.dept => exact .inr ⟨User.ownerIsDept_of_eq same.symm, .inr ⟨rfl, rfl⟩⟩
  -- The remaining pairs differ in the form of their conditions.
  all_goals simp [linkedDeptCondition, deptTreeCondition, Expr.columnEq, Expr.disjoin] at same

namespace User

variable {user : User} {d : EntityDescriptor}

theorem leaders_unique {a b : Role} (first : a ∈ user.leaders) (second : b ∈ user.leaders)
    (scopes : a.scope = b.scope) (ids : a.scope = .custom → a.id = b.id) : a = b := by
  have same : a.id = b.id := by
    by_cases own : a.scope = .custom
    · exact ids own
    · obtain ⟨firstRole, firstLeads⟩ := List.mem_filter.1 first
      obtain ⟨secondRole, secondLeads⟩ := List.mem_filter.1 second
      have least := (of_decide_eq_true firstLeads).resolve_left own b secondRole scopes.symm
      have greatest :=
        (of_decide_eq_true secondLeads).resolve_left (scopes ▸ own) a firstRole scopes
      have values := Int64.le_antisymm least greatest
      rcases a with ⟨⟨_⟩, _⟩
      rcases b with ⟨⟨_⟩, _⟩
      exact congrArg RoleId.mk values
  rcases a with ⟨_, _⟩
  rcases b with ⟨_, _⟩
  cases same
  cases scopes
  rfl

theorem leaders_once {a b : Role} {leaf : Expr} (first : a ∈ user.leaders)
    (second : b ∈ user.leaders) (leafA : a.condition user d = some leaf)
    (leafB : b.condition user d = some leaf) :
    a = b ∨ (user.OwnerIsDept d ∧ ((a.scope = .dept ∧ b.scope = .ownRows) ∨
      (a.scope = .ownRows ∧ b.scope = .dept))) := by
  rcases Role.scope_of_condition_eq leafA leafB with ⟨scopes, ids⟩ | shared
  · exact .inl (leaders_unique first second scopes ids)
  · exact .inr shared

theorem leaves_nodup (apart : ¬user.OwnerIsDept d) : (user.leaves d).Nodup := by
  have leaders : user.leaders.Nodup := user.roles.nodup.filter _
  refine List.pairwise_filterMap.2 (leaders.imp_of_mem fun {a b} first second differs => ?_)
  intro leaf leafA other leafB same
  rcases leaders_once first second leafA (same ▸ leafB) with equal | ⟨shared, -⟩
  · exact differs equal
  · exact apart shared

theorem exists_leaf {role : Role} (member : role ∈ user.roles.toList) (limited : role.scope ≠ .all) :
    ∃ leaf ∈ user.leaves d, role.condition user d = some leaf := by
  obtain ⟨leaf, condition⟩ : ∃ leaf, role.condition user d = some leaf :=
    Role.exists_condition limited
  obtain ⟨kept, among, keptCondition⟩ :=
    exists_contributing (P := fun r => r.condition user d = some leaf)
      (fun same general => (Role.condition_congr same general).symm.trans) [] member condition nofun
  refine ⟨leaf, ?_, condition⟩
  rw [← conditions_eq]
  exact List.mem_filterMap.2 ⟨kept, among, keptCondition⟩

/-- A predicate made of the conditions of the roles that lead: a chain of disjunctions from the left
with these conditions as its links, in the order of the roles. -/
structure Composes (user : User) (d : EntityDescriptor) (predicate : Expr) : Prop where
  chain : ∃ first rest, user.leaves d = first :: rest ∧ predicate = rest.foldl .or first
  ordered : user.leaders.Pairwise fun a b =>
    a.id.value < b.id.value ∨ a.id.value = b.id.value ∧ a.scope.rank < b.scope.rank
  /-- No condition is lost. -/
  complete : ∀ role ∈ user.roles.toList, ∃ leaf ∈ user.leaves d, role.condition user d = some leaf
  /-- No condition is repeated, but one comparison may stand for two scopes. -/
  once : ∀ a ∈ user.leaders, ∀ b ∈ user.leaders, ∀ leaf, a.condition user d = some leaf →
    b.condition user d = some leaf → a = b ∨ (user.OwnerIsDept d ∧
      ((a.scope = .dept ∧ b.scope = .ownRows) ∨ (a.scope = .ownRows ∧ b.scope = .dept)))
  distinct : ¬user.OwnerIsDept d → (user.leaves d).Nodup
  simple : ∀ leaf ∈ user.leaves d, leaf.isCompound = false
  ungrouped : predicate.isUngrouped = true

theorem resolve_composes (limited : ∀ role ∈ user.roles.toList, role.scope ≠ .all)
    (nonempty : user.roles.toList ≠ []) :
    ∃ e, user.resolve d = .restricted e ∧ user.Composes d e := by
  have notFull : ¬user.hasFullAccess = true := by
    rw [hasFullAccess_iff]
    rintro ⟨role, member, everything⟩
    exact limited role member everything
  have simple : ∀ leaf ∈ user.leaves d, leaf.isCompound = false ∧ leaf.isUngrouped = true := by
    intro leaf member
    obtain ⟨role, -, condition⟩ := List.mem_filterMap.1 member
    exact Role.condition_simple condition
  obtain ⟨role, member⟩ := List.exists_mem_of_ne_nil _ nonempty
  obtain ⟨leaf, among, -⟩ := exists_leaf (d := d) member (limited role member)
  cases leaves : user.leaves d with
  | nil =>
    rw [leaves] at among
    cases among
  | cons first rest =>
    have noAnd : ∀ e ∈ first :: rest, e.isAnd = false := by
      intro e linked
      have compound := (simple e (leaves ▸ linked)).1
      exact (Bool.or_eq_false_iff.1 compound).1
    refine ⟨rest.foldl .or first, ?_, ⟨first, rest, leaves, rfl⟩, ?_, ?_, ?_, leaves_nodup, ?_, ?_⟩
    · rw [resolve, if_neg notFull, conditions_eq, leaves, Expr.disjoinAll,
        Expr.foldl_disjoin_eq noAnd]
    · exact (user.roles.ascending.filter _).imp Role.compare_eq_lt.1
    · exact fun other held => exists_leaf held (limited other held)
    · exact fun a first b second leaf => leaders_once first second
    · exact fun leaf linked => (simple leaf linked).1
    · exact Expr.isUngrouped_foldl_or fun e linked => (simple e (leaves ▸ linked)).2

end User

inductive RoleAddition where
  | one (role : Role)
  | batch (roles : List Role)

def RoleAddition.roles : RoleAddition → List Role
  | one role => [role]
  | batch roles => roles

namespace User

def add (user : User) : RoleAddition → User
  | .one role => user.addRole role
  | .batch roles => user.addRoles roles

def addAll (user : User) (history : List RoleAddition) : User := history.foldl add user

theorem add_eq (user : User) (addition : RoleAddition) :
    user.add addition = user.addRoles addition.roles := by
  cases addition <;> rfl

theorem addAll_spec (user : User) (history : List RoleAddition) :
    (user.addAll history).id = user.id ∧ (user.addAll history).dept = user.dept ∧
      ∀ role, role ∈ (user.addAll history).roles.toList ↔
        role ∈ history.flatMap RoleAddition.roles ∨ role ∈ user.roles.toList := by
  induction history generalizing user with
  | nil => simp [addAll]
  | cons addition rest ih =>
    obtain ⟨id, dept, roles⟩ := ih (user.add addition)
    have once : user.addAll (addition :: rest) = (user.add addition).addAll rest := rfl
    rw [once, id, dept, add_eq]
    refine ⟨rfl, rfl, fun role => ?_⟩
    rw [← add_eq, roles, add_eq, addRoles, OrderedSet.mem_insertAll, List.flatMap_cons,
      List.mem_append, or_left_comm, or_assoc]

theorem addAll_congr (user : User) {history other : List RoleAddition}
    (same : ∀ role, role ∈ history.flatMap RoleAddition.roles ↔
      role ∈ other.flatMap RoleAddition.roles) :
    user.addAll history = user.addAll other := by
  obtain ⟨id, dept, roles⟩ := user.addAll_spec history
  obtain ⟨otherId, otherDept, otherRoles⟩ := user.addAll_spec other
  refine ext_roles (id.trans otherId.symm) (dept.trans otherDept.symm) fun role => ?_
  rw [roles, otherRoles, same]

/-- What the roles of a user resolve to, whatever the user and the descriptor are. There is no
restriction exactly where some role grants every row, and no row at all exactly where there is no
role; otherwise the predicate is a chain of disjunctions made of the conditions of the roles that
lead. The result does not depend on the order and the grouping in which the roles were added, nor on
how often. -/
theorem resolution_shape (user : User) (d : EntityDescriptor) :
    (user.resolve d = .unrestricted ↔ ∃ role ∈ user.roles.toList, role.scope = .all) ∧
      (user.resolve d = .denyAll ↔ user.roles.toList = []) ∧
      ((∀ role ∈ user.roles.toList, role.scope ≠ .all) → user.roles.toList ≠ [] →
        ∃ e, user.resolve d = .restricted e ∧ user.Composes d e) ∧
      ∀ history other : List RoleAddition,
        (∀ role, role ∈ history.flatMap RoleAddition.roles ↔
          role ∈ other.flatMap RoleAddition.roles) →
        (user.addAll history).resolve d = (user.addAll other).resolve d := by
  have unrestricted : user.hasFullAccess = true → user.resolve d = .unrestricted := by
    intro full
    rw [resolve, if_pos full]
  have limited : ¬user.hasFullAccess = true →
      ∀ role ∈ user.roles.toList, role.scope ≠ .all := by
    intro notFull role member everything
    exact notFull (hasFullAccess_iff.2 ⟨role, member, everything⟩)
  refine ⟨?_, ?_, resolve_composes, fun history other same => ?_⟩
  · rw [← hasFullAccess_iff]
    refine ⟨fun resolved => ?_, unrestricted⟩
    by_contra notFull
    rw [resolve, if_neg notFull] at resolved
    split at resolved <;> cases resolved
  · refine ⟨fun resolved => ?_, fun empty => ?_⟩
    · by_contra nonempty
      by_cases full : user.hasFullAccess = true
      · rw [unrestricted full] at resolved
        cases resolved
      · obtain ⟨e, restricted, -⟩ := resolve_composes (d := d) (limited full) nonempty
        rw [restricted] at resolved
        cases resolved
    · have notFull : ¬user.hasFullAccess = true := by simp [hasFullAccess, empty]
      rw [resolve, if_neg notFull, conditions, empty]
      rfl
  · rw [user.addAll_congr same]

/-- Five roles, of which one id has two scopes and one scope two ids. -/
theorem resolution_shape_five_roles :
    let user : User := ⟨⟨7⟩, ⟨3⟩, .ofList [⟨⟨9⟩, .dept⟩, ⟨⟨2⟩, .ownRows⟩, ⟨⟨2⟩, .dept⟩,
      ⟨⟨8⟩, .custom⟩, ⟨⟨4⟩, .custom⟩]⟩
    (∀ role ∈ user.roles.toList, role.scope ≠ .all) ∧ user.roles.toList ≠ [] ∧
      ∃ e, user.resolve .standard = .restricted e ∧ user.Composes .standard e := by
  intro user
  have limited : ∀ role ∈ user.roles.toList, role.scope ≠ .all := by decide
  have nonempty : user.roles.toList ≠ [] := by decide
  exact ⟨limited, nonempty, (resolution_shape user .standard).2.2.1 limited nonempty⟩

/-- Where one column holds department and owner and a user has one number as both, the comparison
stands twice in the predicate: once for each scope. -/
theorem condition_occurs_twice :
    let user : User := ⟨⟨7⟩, ⟨7⟩, .ofList [⟨⟨1⟩, .dept⟩, ⟨⟨2⟩, .ownRows⟩]⟩
    let d : EntityDescriptor := { deptIdColumn := "owner", userIdColumn := "owner" }
    let own : Expr := .columnEq (.bare "owner") (.int 7)
    user.resolve d = .restricted (.or own own) ∧ user.leaves d = [own, own] ∧
      ¬(user.leaves d).Nodup := by
  intro user d own
  have leaves : user.leaves d = [own, own] := by rfl
  refine ⟨rfl, leaves, ?_⟩
  rw [leaves]
  simp

end User

end RowGuard
