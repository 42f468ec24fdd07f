import RowGuard.Proofs.Interception.Conjunction
/-!
Tenants that share a schema share no row. The comparison with the active tenant is a conjunct of
every filter the tenant line applies to, and a stored value denotes one tenant at most, however it
is written.
-/
namespace RowGuard.Interceptor

open Sql

/-- The tenant line holds a statement to the rows of one ordinary tenant. -/
structure HeldTo (config : GuardConfig) (suspended : Bool) (caller : Caller) (s : Statement)
    (tenant : TenantId) : Prop where
  isolated : config.tenant.isolation = .line
  active : caller.tenant.id? = some tenant
  ordinary : tenant ≠ config.tenant.superTenant
  rows : s.kind ≠ .insert
  guarded : config.tenant.ignores s.table = false
  subject : s.ignoreTenantLine = false
  running : suspended = false

theorem equals_int_unique {stored : Value} {a b : Int64}
    (first : stored.equals (.int a) = some true) (second : stored.equals (.int b) = some true) :
    a = b := by
  cases stored with
  | int n =>
    simp only [Value.equals, Option.some.injEq, beq_iff_eq] at first second
    exact first.symm.trans second
  | text s =>
    simp only [Value.equals, Option.some.injEq, beq_iff_eq] at first second
    exact Option.some.inj (first.symm.trans second)
  | null => cases first

theorem HeldTo.linePart_eq {config : GuardConfig} {suspended : Bool} {caller : Caller}
    {s : Statement} {tenant : TenantId} (held : HeldTo config suspended caller s tenant) :
    linePart config suspended caller s =
      some (.columnEq (.qualified (s.shortName.getD "") config.tenant.tenantColumn)
        (.int tenant.value)) := by
  unfold linePart
  rw [held.active]
  exact if_pos ⟨held.rows, held.isolated, held.subject, held.running, held.ordinary, held.guarded⟩

theorem HeldTo.accepted {config : GuardConfig} {suspended : Bool} {caller : Caller}
    {s : Statement} {tenant : TenantId} (held : HeldTo config suspended caller s tenant) :
    ∃ filter, (intercept config suspended caller s).filter = some filter ∧ ∀ row : Row,
      row.matches filter = .ok true →
        ((row (.qualified (s.shortName.getD "") config.tenant.tenantColumn)).getD .null).equals
          (.int tenant.value) = some true := by
  cases present : (intercept config suspended caller s).filter with
  | none =>
    rw [intercept_filter, withLine_eq_none, held.linePart_eq] at present
    cases present.2
  | some filter =>
    refine ⟨filter, rfl, fun row accepted => ?_⟩
    have verdict := verdict_intercept config suspended caller s row
    rw [present, Expr.verdict, Row.matches_eq_true.1 accepted] at verdict
    simp only [parts, List.map_cons, List.map_nil, conjunctionOf_cons, conjunctionOf_nil,
      bothTrue_true_right] at verdict
    have line := (bothTrue_eq_true.1 (bothTrue_eq_true.1 verdict.symm).2).2
    rw [held.linePart_eq, Expr.verdict, Expr.truth_columnEq] at line
    exact Except.ok.inj line

/-- Two statements held to different tenants under one alias accept no common row, whatever their
own filters, descriptors and callers are. Every kind of row is covered, and so is a tenant column
that holds an integer or a text. -/
theorem tenants_share_no_row {config : GuardConfig} {paused halted : Bool}
    {caller other : Caller} {s t : Statement} {mine theirs : TenantId}
    (first : HeldTo config paused caller s mine) (second : HeldTo config halted other t theirs)
    (different : mine ≠ theirs) (sameName : s.shortName = t.shortName) :
    ∃ f g, (intercept config paused caller s).filter = some f ∧
      (intercept config halted other t).filter = some g ∧
      ∀ row : Row, ¬(row.matches f = .ok true ∧ row.matches g = .ok true) := by
  obtain ⟨f, presentF, onlyMine⟩ := first.accepted
  obtain ⟨g, presentG, onlyTheirs⟩ := second.accepted
  refine ⟨f, g, presentF, presentG, fun row both => different ?_⟩
  have mineStored := onlyMine row both.1
  have theirsStored := onlyTheirs row both.2
  rw [← sameName] at theirsStored
  exact congrArg TenantId.mk (equals_int_unique mineStored theirsStored)

/-- Tenant 5 looks for open or late orders and is restricted to its own rows, tenant 6 deletes from
the archive without a filter: the tenant column of no row equals both. -/
theorem tenants_share_no_row_five_six :
    ∃ f g,
      (intercept .standard false
        ⟨⟨some ⟨5⟩⟩, some ⟨⟨7⟩, ⟨3⟩, .ofList [⟨⟨1⟩, .ownRows⟩]⟩, true⟩
        { kind := .select, table := "orders", shortName := some "o",
          filter := some (.or (.columnEq (.bare "status") (.text "open"))
            (.columnEq (.bare "status") (.text "late"))),
          descriptor := some .standard }).filter = some f ∧
      (intercept .standard false ⟨⟨some ⟨6⟩⟩, none, false⟩
        { kind := .delete, table := "archive", shortName := some "o" }).filter = some g ∧
      ∀ row : Row, ¬(row.matches f = .ok true ∧ row.matches g = .ok true) :=
  tenants_share_no_row
    ⟨rfl, rfl, by decide, by decide, rfl, rfl, rfl⟩
    ⟨rfl, rfl, by decide, by decide, rfl, rfl, rfl⟩ (by decide) rfl

end RowGuard.Interceptor
