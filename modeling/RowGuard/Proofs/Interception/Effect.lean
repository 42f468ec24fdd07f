import RowGuard.Proofs.Interception.Conjunction
/-!
All that interception changes of a statement. A statement that reads or changes rows gets another
filter, an insert under the tenant line may get one more parameter, and everything else stays.
-/
namespace RowGuard

namespace TenantLine

variable {config : TenantConfig} {params filled : List (String × Json)} {table : String}
  {shortName : Option String} {tenant : ActiveTenant}

/-- Parameters without a value for the tenant column. A null is no value. -/
def Lacks (config : TenantConfig) (params : List (String × Json)) : Prop :=
  ∀ value, Table.find? config.tenantColumn params = some value → value.isNull = true

theorem predicate_eq_some {p : Sql.Expr} :
    predicate config table shortName tenant = some p ↔
      ∃ id, tenant.id? = some id ∧ bypasses config table tenant = false ∧
        p = .columnEq (.qualified (shortName.getD "") config.tenantColumn) (.int id.value) := by
  unfold predicate tenantLiteral
  cases bypasses config table tenant with
  | true => simp
  | false =>
    simp only [Bool.false_eq_true, if_false, Option.map_map, Option.map_eq_some_iff, true_and]
    exact exists_congr fun id => and_congr_right fun _ => eq_comm

theorem fill_eq_some :
    fill config params table tenant = some filled ↔
      ∃ id, tenant.id? = some id ∧ bypasses config table tenant = false ∧ Lacks config params ∧
        filled = Table.insert config.tenantColumn id.toJson params := by
  have kept : (Table.find? config.tenantColumn params).any (!·.isNull) = true ↔
      ¬Lacks config params := by
    unfold Lacks
    cases Table.find? config.tenantColumn params <;> simp
  unfold fill
  cases tenant.id? with
  | none => simp
  | some id =>
    dsimp only
    by_cases bypassed : bypasses config table tenant = true
    · simp [bypassed]
    · rw [if_neg bypassed]
      by_cases lacks : Lacks config params
      · rw [if_neg fun holds => kept.1 holds lacks]
        simp [bypassed, lacks, eq_comm]
      · rw [if_pos (kept.2 lacks)]
        simp [lacks]

theorem not_lacks_insert (config : TenantConfig) (owner : TenantId)
    (params : List (String × Json)) :
    ¬Lacks config (Table.insert config.tenantColumn owner.toJson params) := by
  intro lacks
  have found := Table.find?_insert_self config.tenantColumn owner.toJson params
  exact Bool.false_ne_true (lacks _ found)

end TenantLine

namespace Interceptor

open Sql

variable (config : GuardConfig) (suspended : Bool) (caller : Caller) (s : Statement)

/-- The parameters a statement is left with. Only an insert under the tenant line gets another. -/
def paramsOf : List (String × Json) :=
  if s.kind = .insert ∧ lineApplies config suspended s then
    (TenantLine.fill config.tenant s.params s.table caller.tenant).getD s.params
  else s.params

def filterOf : Option Expr :=
  withLine (withScope s.filter (scopePart config caller s)) (linePart config suspended caller s)

theorem applyLine_eq :
    applyLine config suspended caller s =
      { s with
        filter := withLine s.filter (linePart config suspended caller s)
        params := paramsOf config suspended caller s } := by
  rw [← applyLine_filter]
  unfold applyLine paramsOf
  by_cases applies : lineApplies config suspended s = true
  · by_cases insert : s.kind = .insert
    · simp only [applies, insert, if_true, and_self]
    · simp only [applies, insert, if_true, if_false, false_and]
  · simp only [applies, and_false, Bool.false_eq_true, if_false]

/-- Interception changes nothing of a statement but its filter and its parameters. -/
theorem intercept_eq :
    intercept config suspended caller s =
      { s with
        filter := filterOf config suspended caller s
        params := paramsOf config suspended caller s } := by
  rw [intercept, applyLine_eq, applyScope_eq]
  rfl

theorem intercept_params :
    (intercept config suspended caller s).params = paramsOf config suspended caller s := by
  rw [intercept_eq]

theorem filterOf_insert (insert : s.kind = .insert) :
    filterOf config suspended caller s = s.filter := by
  have unscoped : scopePart config caller s = none := by
    unfold scopePart
    cases s.descriptor with
    | none => rfl
    | some d => simp [insert]
  have unlined : linePart config suspended caller s = none := by
    rw [linePart_eq, if_neg fun both => both.1 insert]
  rw [filterOf, unscoped, unlined, withLine_none, withScope]

end Interceptor

end RowGuard
