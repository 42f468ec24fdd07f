import RowGuard.Interceptor
import RowGuard.Proofs.Sql.Logic
/-!
What interception makes of a filter: the conjunction of the filter the statement came with, the
predicate of the caller's data scope and the predicate of the tenant line, each where it applies.
Nothing is weakened by the grouping, and nothing else is added.
-/
namespace RowGuard.Interceptor

open Sql

/-- What the data scope of the caller demands of a statement that reads or changes rows. Without a
user no row is left. -/
def scopePart (config : GuardConfig) (caller : Caller) (s : Statement) : Option Expr :=
  match s.descriptor with
  | none => none
  | some d =>
    if s.kind ≠ .insert ∧ config.permission.enabled ∧ caller.dataScope then
      match caller.user with
      | none => some Expr.never
      | some user =>
        match user.resolve d with
        | .unrestricted => none
        | .restricted predicate => some predicate
        | .denyAll => some Expr.never
    else none

/-- What the tenant line demands of a statement that reads or changes rows. -/
def linePart (config : GuardConfig) (suspended : Bool) (caller : Caller) (s : Statement) :
    Option Expr :=
  match caller.tenant.id? with
  | none => none
  | some id =>
    if s.kind ≠ .insert ∧ config.tenant.isolation = .line ∧ s.ignoreTenantLine = false ∧
        suspended = false ∧ id ≠ config.tenant.superTenant ∧
        config.tenant.ignores s.table = false then
      some (.columnEq (.qualified (s.shortName.getD "") config.tenant.tenantColumn)
        (.int id.value))
    else none

/-- The filter a statement came with and the predicates on it, in the order they are joined. -/
def parts (config : GuardConfig) (suspended : Bool) (caller : Caller) (s : Statement) :
    List (Option Expr) :=
  [s.filter, scopePart config caller s, linePart config suspended caller s]

def withScope (filter scope : Option Expr) : Option Expr :=
  match scope with
  | none => filter
  | some predicate => some (Expr.restrict filter predicate)

def withLine (filter line : Option Expr) : Option Expr :=
  match filter, line with
  | some e, some predicate => some (Expr.conjoin e predicate)
  | some e, none => some e
  | none, predicate => predicate

theorem withScope_eq_none {filter scope : Option Expr} :
    withScope filter scope = none ↔ filter = none ∧ scope = none := by
  cases filter <;> cases scope <;> simp [withScope]

theorem withLine_eq_none {filter line : Option Expr} :
    withLine filter line = none ↔ filter = none ∧ line = none := by
  cases filter <;> cases line <;> simp [withLine]

theorem withLine_none (filter : Option Expr) : withLine filter none = filter := by
  cases filter <;> rfl

theorem applyScope_filter (config : GuardConfig) (caller : Caller) (s : Statement) :
    (applyScope config caller s).filter = withScope s.filter (scopePart config caller s) := by
  unfold applyScope scopeDescriptor scopePart
  cases descriptor : s.descriptor with
  | none => simp [withScope]
  | some d =>
    by_cases applies : s.kind ≠ .insert ∧ config.permission.enabled ∧ caller.dataScope
    · simp only [if_pos applies, applyDataScope, resolveFor]
      cases caller.user with
      | none => rfl
      | some user =>
        cases resolved : user.resolve d <;> simp [Resolution.predicate, withScope, resolved]
    · simp only [if_neg applies, withScope]

theorem applyScope_eq (config : GuardConfig) (caller : Caller) (s : Statement) :
    applyScope config caller s =
      { s with filter := withScope s.filter (scopePart config caller s) } := by
  rw [← applyScope_filter]
  unfold applyScope
  split <;> rfl

theorem linePart_eq (config : GuardConfig) (suspended : Bool) (caller : Caller) (s : Statement) :
    linePart config suspended caller s =
      if s.kind ≠ .insert ∧ lineApplies config suspended s then
        TenantLine.predicate config.tenant s.table s.shortName caller.tenant
      else none := by
  unfold linePart TenantLine.predicate TenantLine.bypasses TenantLine.tenantLiteral
  cases tenant : caller.tenant.id? with
  | none => simp
  | some id =>
    simp only [lineApplies, TenantConfig.isSuper, Option.any_some, Option.map_some,
      Bool.and_eq_true, decide_eq_true_eq, Bool.not_eq_true', Bool.or_eq_true, beq_iff_eq]
    by_cases special : id = config.tenant.superTenant
    · simp [special]
    · by_cases ignored : config.tenant.ignores s.table = true
      · simp [ignored]
      · simp only [Bool.not_eq_true] at ignored
        simp only [special, ignored, ne_eq, not_false_eq_true, and_true, and_assoc,
          Bool.false_eq_true, or_self, ↓reduceIte, Expr.columnEq, Expr.int]

theorem line_apply (config : TenantConfig) (filter : Option Expr) (table : String)
    (shortName : Option String) (tenant : ActiveTenant) :
    TenantLine.apply config filter table shortName tenant =
      withLine filter (TenantLine.predicate config table shortName tenant) := by
  unfold TenantLine.apply withLine
  cases filter with
  | none => rfl
  | some e => cases TenantLine.predicate config table shortName tenant <;> rfl

/-- The tenant line joins its predicate to a filter. An insert keeps the filter it has. -/
theorem applyLine_filter (config : GuardConfig) (suspended : Bool) (caller : Caller)
    (s : Statement) :
    (applyLine config suspended caller s).filter =
      withLine s.filter (linePart config suspended caller s) := by
  rw [linePart_eq, applyLine]
  by_cases applies : lineApplies config suspended s = true
  · by_cases insert : s.kind = .insert
    · rw [if_pos applies, if_pos insert, if_neg (by simp [insert]), withLine_none]
    · rw [if_pos applies, if_neg insert, if_pos ⟨insert, applies⟩, line_apply]
  · rw [if_neg applies, if_neg (fun both => applies both.2), withLine_none]

theorem intercept_filter (config : GuardConfig) (suspended : Bool) (caller : Caller)
    (s : Statement) :
    (intercept config suspended caller s).filter =
      withLine (withScope s.filter (scopePart config caller s))
        (linePart config suspended caller s) := by
  rw [intercept, applyLine_filter, applyScope_eq]
  rfl

theorem verdict_withScope (row : Row) (filter scope : Option Expr) :
    Expr.verdict row (withScope filter scope) =
      bothTrue (Expr.verdict row filter) (Expr.verdict row scope) := by
  cases scope with
  | none => exact (bothTrue_true_right _).symm
  | some predicate => exact Expr.truth_restrict row filter predicate

theorem verdict_withLine (row : Row) (filter line : Option Expr) :
    Expr.verdict row (withLine filter line) =
      bothTrue (Expr.verdict row filter) (Expr.verdict row line) := by
  cases filter with
  | none => exact (bothTrue_true_left _).symm
  | some e =>
    cases line with
    | none => exact (bothTrue_true_right _).symm
    | some predicate => exact Expr.truth_conjoin row e predicate

theorem verdict_intercept (config : GuardConfig) (suspended : Bool) (caller : Caller)
    (s : Statement) (row : Row) :
    Expr.verdict row (intercept config suspended caller s).filter =
      conjunctionOf ((parts config suspended caller s).map (Expr.verdict row)) := by
  rw [intercept_filter, verdict_withLine, verdict_withScope]
  simp only [parts, List.map_cons, List.map_nil, conjunctionOf_cons, conjunctionOf_nil,
    bothTrue_true_right, bothTrue_assoc]

/-- Interception is conjunction. A statement is left without a filter only where it came without one
and neither the data scope nor the tenant line demands anything of it. Otherwise its filter says of
every row what the parts say together, from the left: the first part that is false or an error
decides, an unknown part makes the rest unknown at best, and the row is accepted if all parts accept
it. -/
theorem intercept_is_conjunction (config : GuardConfig) (suspended : Bool) (caller : Caller)
    (s : Statement) :
    ((intercept config suspended caller s).filter = none ↔
      s.filter = none ∧ scopePart config caller s = none ∧
        linePart config suspended caller s = none) ∧
    ∀ filter, (intercept config suspended caller s).filter = some filter → ∀ row,
      filter.truth row =
        conjunctionOf (((parts config suspended caller s).filterMap id).map (Expr.truth row)) := by
  constructor
  · rw [intercept_filter, withLine_eq_none, withScope_eq_none, and_assoc]
  · intro filter present row
    rw [Expr.conjunctionOf_present, ← verdict_intercept, present, Expr.verdict]

end RowGuard.Interceptor
