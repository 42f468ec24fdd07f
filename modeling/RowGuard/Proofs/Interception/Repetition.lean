import Mathlib.Logic.Function.Iterate
import RowGuard.Proofs.Interception.Effect
/-!
Interception of what was intercepted before. Every pass joins the predicates of the same context to
the filter once more, and a part that a conjunction has counted does not count again, so no later
pass changes what the first one decided.
-/
namespace RowGuard

namespace Sql

theorem bothTrue_again (a b : Eval (Option Bool)) : bothTrue (bothTrue a b) a = bothTrue a b := by
  rcases a with e | _ | _ | _
  · rfl
  · rcases b with e | _ | _ | _ <;> rfl
  · rfl
  · rw [bothTrue_true_right]

theorem conjunctionOf_again {results : List (Eval (Option Bool))} {part : Eval (Option Bool)}
    (counted : part ∈ results) : bothTrue (conjunctionOf results) part = conjunctionOf results := by
  induction results with
  | nil => cases counted
  | cons first rest ih =>
    rw [conjunctionOf_cons]
    rcases List.mem_cons.1 counted with rfl | later
    · exact bothTrue_again part (conjunctionOf rest)
    · rw [bothTrue_assoc, ih later]

end Sql

namespace TenantLine

theorem fill_again {config : TenantConfig} {params filled : List (String × Json)} {table : String}
    {tenant : ActiveTenant} (once : fill config params table tenant = some filled) :
    fill config filled table tenant = none := by
  obtain ⟨id, -, -, -, rfl⟩ := fill_eq_some.1 once
  rw [Option.eq_none_iff_forall_ne_some]
  intro twice again
  obtain ⟨-, -, -, lacks, -⟩ := fill_eq_some.1 again
  exact not_lacks_insert config id params lacks

end TenantLine

namespace Interceptor

open Sql

variable (config : GuardConfig) (suspended : Bool) (caller : Caller) (s : Statement)

theorem demands_intercept :
    scopePart config caller (intercept config suspended caller s) = scopePart config caller s ∧
      linePart config suspended caller (intercept config suspended caller s) =
        linePart config suspended caller s := by
  rw [intercept_eq]
  exact ⟨rfl, rfl⟩

theorem verdict_again (row : Row) :
    Expr.verdict row
        (intercept config suspended caller (intercept config suspended caller s)).filter =
      Expr.verdict row (intercept config suspended caller s).filter := by
  have demands := demands_intercept config suspended caller s
  have first := verdict_intercept config suspended caller s row
  have scope : Expr.verdict row (scopePart config caller s) ∈
      (parts config suspended caller s).map (Expr.verdict row) :=
    List.mem_map_of_mem (by simp [parts])
  have line : Expr.verdict row (linePart config suspended caller s) ∈
      (parts config suspended caller s).map (Expr.verdict row) :=
    List.mem_map_of_mem (by simp [parts])
  rw [intercept_filter, demands.1, demands.2, verdict_withLine, verdict_withScope, first,
    conjunctionOf_again scope, conjunctionOf_again line]

theorem filter_again :
    (intercept config suspended caller (intercept config suspended caller s)).filter = none ↔
      (intercept config suspended caller s).filter = none := by
  have demands := demands_intercept config suspended caller s
  rw [intercept_filter, demands.1, demands.2, withLine_eq_none, withScope_eq_none,
    intercept_filter, withLine_eq_none, withScope_eq_none]
  constructor
  · intro none
    exact none.1.1
  · intro none
    exact ⟨⟨none, none.1.2⟩, none.2⟩

theorem paramsOf_again :
    paramsOf config suspended caller (intercept config suspended caller s) =
      paramsOf config suspended caller s := by
  rw [intercept_eq, paramsOf]
  change (if s.kind = .insert ∧ lineApplies config suspended s = true then
      (TenantLine.fill config.tenant (paramsOf config suspended caller s) s.table
        caller.tenant).getD (paramsOf config suspended caller s)
    else paramsOf config suspended caller s) = paramsOf config suspended caller s
  by_cases applies : s.kind = .insert ∧ lineApplies config suspended s = true
  · rw [if_pos applies, paramsOf, if_pos applies]
    cases once : TenantLine.fill config.tenant s.params s.table caller.tenant with
    | none => rw [Option.getD_none, once, Option.getD_none]
    | some filled => rw [Option.getD_some, TenantLine.fill_again once, Option.getD_none]
  · rw [if_neg applies]

/-- A statement that has at most its filter replaced, by one that says the same of every row. -/
structure Settled (before after : Statement) : Prop where
  rest : after = { before with filter := after.filter }
  presence : after.filter = none ↔ before.filter = none
  verdict : ∀ row, Expr.verdict row after.filter = Expr.verdict row before.filter
  insert : before.kind = .insert → after = before

theorem Settled.refl : Settled s s := ⟨rfl, Iff.rfl, fun _ => rfl, fun _ => rfl⟩

theorem Settled.trans {s t u : Statement} (first : Settled s t) (second : Settled t u) :
    Settled s u where
  rest := by
    rw [second.rest, first.rest]
  presence := second.presence.trans first.presence
  verdict row := (second.verdict row).trans (first.verdict row)
  insert kind := by
    have same : t = s := first.insert kind
    have kept : t.kind = .insert := by rw [same, kind]
    exact (second.insert kept).trans same

theorem Settled.truth {s t : Statement} (settled : Settled s t) (row : Row) :
    t.filter.map (Expr.truth row) = s.filter.map (Expr.truth row) := by
  have verdict := settled.verdict row
  have presence := settled.presence
  cases after : t.filter with
  | none => rw [presence.1 after]
  | some e =>
    cases before : s.filter with
    | none => cases after.symm.trans (presence.2 before)
    | some f =>
      rw [after, before] at verdict
      exact congrArg some verdict

theorem settled_again :
    Settled (intercept config suspended caller s)
      (intercept config suspended caller (intercept config suspended caller s)) where
  rest := by
    have again := intercept_eq config suspended caller (intercept config suspended caller s)
    rw [paramsOf_again, ← intercept_params] at again
    have filter := congrArg Statement.filter again
    rw [filter]
    exact again
  presence := filter_again config suspended caller s
  verdict := verdict_again config suspended caller s
  insert kind := by
    rw [intercept_eq config suspended caller (intercept config suspended caller s),
      filterOf_insert config suspended caller _ kind, paramsOf_again, ← intercept_params]

theorem settled_iterate (n : Nat) :
    Settled (intercept config suspended caller s)
      ((intercept config suspended caller)^[n + 1] s) := by
  induction n with
  | zero => exact Settled.refl _
  | succ n ih =>
    have again := settled_again config suspended caller ((intercept config suspended caller)^[n] s)
    rw [Function.iterate_succ_apply'] at ih ⊢
    rw [Function.iterate_succ_apply']
    exact ih.trans again

/-- Interception again is harmless. A statement that is intercepted any number of times in one
context has after all passes the parameters it had after the first, and a filter only where it had
one then. On every row the filter gives what the filter of the first pass gives, be it true, false,
unknown or an error. An insert is as the first pass left it. -/
theorem interception_settles (config : GuardConfig) (suspended : Bool) (caller : Caller)
    (s : Statement) (n : Nat) :
    let once := intercept config suspended caller s
    let often := (intercept config suspended caller)^[n + 1] s
    often = { once with filter := often.filter } ∧
      (often.filter = none ↔ once.filter = none) ∧
      (∀ row, often.filter.map (Expr.truth row) = once.filter.map (Expr.truth row)) ∧
      (s.kind = .insert → often = once) := by
  intro once often
  have settled := settled_iterate config suspended caller s n
  have kind : once.kind = s.kind := by
    unfold once
    rw [intercept_eq]
  refine ⟨settled.rest, settled.presence, settled.truth, fun insert => ?_⟩
  exact settled.insert (kind.trans insert)

end Interceptor

end RowGuard
