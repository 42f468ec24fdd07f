import RowGuard.Proofs.Interception.Effect
import RowGuard.Proofs.Sql.Representation
/-!
What is written under a tenant is read under that tenant. An insert is filled in exactly where a
query of its table is held to the tenant's rows, and the row it writes is one of these and of no
other tenant's.
-/
namespace RowGuard

/-- A query of a table under its own name, without a filter and without a data scope. -/
def Statement.query (table : String) : Statement := { kind := .select, table }

namespace Sql

theorem Row.cell_tenant (id : TenantId) : Row.cell id.toJson = .int id.value :=
  Row.cell_toJson (.int id.value)

theorem Row.ofJson_unqualified (members : List (String × Json)) (name : String) :
    Row.ofJson members (.qualified "" name) = (Table.find? name members).map Row.cell := rfl

theorem Row.matches_columnEq_int {row : Row} {c : Column} {stored asked : Int64}
    (present : row c = some (.int stored)) :
    row.matches (.columnEq c (.int asked)) = .ok (decide (asked = stored)) := by
  rw [Row.matches, Expr.truth_columnEq, present, Option.getD_some, Value.equals]
  by_cases same : asked = stored
  · simp [same, Except.map]
  · have differs : (stored == asked) = false := beq_false_of_ne fun equal => same equal.symm
    simp [Except.map, differs, same]

end Sql

namespace TenantLine

variable {config : TenantConfig} {table : String} {tenant : ActiveTenant} {id : TenantId}

theorem bypasses_eq_false (active : tenant.id? = some id) :
    bypasses config table tenant = false ↔
      config.ignores table = false ∧ id ≠ config.superTenant := by
  rw [bypasses, active, Option.any_some, Bool.or_eq_false_iff, TenantConfig.isSuper,
    beq_eq_false_iff_ne]

end TenantLine

namespace Interceptor

open Sql

variable {config : GuardConfig} {suspended : Bool} {caller : Caller} {s : Statement}

/-- An insert that is filled in: a tenant is active, the tenant line holds for the table, and there
is no value for the tenant column yet. -/
structure FilledIn (config : GuardConfig) (caller : Caller) (s : Statement) (owner : TenantId) :
    Prop where
  active : caller.tenant.id? = some owner
  guarded : TenantLine.bypasses config.tenant s.table caller.tenant = false
  lacks : TenantLine.Lacks config.tenant s.params

theorem paramsOf_insert (insert : s.kind = .insert) :
    ((lineApplies config suspended s = true → ∀ owner, ¬FilledIn config caller s owner) ∧
        paramsOf config suspended caller s = s.params) ∨
      ∃ owner, FilledIn config caller s owner ∧ paramsOf config suspended caller s =
        Table.insert config.tenant.tenantColumn owner.toJson s.params := by
  by_cases applies : lineApplies config suspended s = true
  · rw [paramsOf, if_pos ⟨insert, applies⟩]
    cases filled : TenantLine.fill config.tenant s.params s.table caller.tenant with
    | some params =>
      obtain ⟨owner, active, guarded, lacks, rfl⟩ := TenantLine.fill_eq_some.1 filled
      exact .inr ⟨owner, ⟨active, guarded, lacks⟩, rfl⟩
    | none =>
      refine .inl ⟨fun _ owner filledIn => ?_, rfl⟩
      have some := TenantLine.fill_eq_some.2
        ⟨owner, filledIn.active, filledIn.guarded, filledIn.lacks, rfl⟩
      cases filled.symm.trans some
  · refine .inl ⟨fun holds => absurd holds applies, ?_⟩
    rw [paramsOf, if_neg fun both => applies both.2]

theorem linePart_select {query : Statement} (isolated : config.tenant.isolation = .line)
    (select : query.kind = .select) (subject : query.ignoreTenantLine = false) :
    linePart config false caller query =
      TenantLine.predicate config.tenant query.table query.shortName caller.tenant := by
  rw [linePart_eq]
  apply if_pos
  constructor
  · rw [select]
    decide
  · rw [lineApplies, isolated, subject]
    rfl

theorem intercept_query (isolated : config.tenant.isolation = .line) (table : String) :
    (intercept config false caller (.query table)).filter =
      TenantLine.predicate config.tenant table none caller.tenant := by
  have unscoped : scopePart config caller (.query table) = none := rfl
  rw [intercept_filter, unscoped, linePart_select isolated rfl rfl]
  rfl

theorem FilledIn.seen {owner : TenantId} (filled : FilledIn config caller s owner)
    (isolated : config.tenant.isolation = .line) {params : List (String × Json)}
    (stored : Table.find? config.tenant.tenantColumn params = some owner.toJson) {reader : Caller}
    {id : TenantId} (active : reader.tenant.id? = some id)
    (ordinary : id ≠ config.tenant.superTenant) :
    ∃ filter, (intercept config false reader (.query s.table)).filter = some filter ∧
      (Row.ofJson params).matches filter = .ok (decide (id = owner)) := by
  have guarded := ((TenantLine.bypasses_eq_false filled.active).1 filled.guarded).1
  have held : TenantLine.bypasses config.tenant s.table reader.tenant = false :=
    (TenantLine.bypasses_eq_false active).2 ⟨guarded, ordinary⟩
  refine ⟨.columnEq (.qualified "" config.tenant.tenantColumn) (.int id.value), ?_, ?_⟩
  · rw [intercept_query isolated]
    exact TenantLine.predicate_eq_some.2 ⟨id, active, held, rfl⟩
  · have present : Row.ofJson params (.qualified "" config.tenant.tenantColumn) =
        some (.int owner.value) := by
      rw [Row.ofJson_unqualified, stored, Option.map_some, Row.cell_tenant]
    rw [Row.matches_columnEq_int present]
    have same : id.value = owner.value ↔ id = owner :=
      ⟨fun values => congrArg TenantId.mk values, fun ids => congrArg TenantId.value ids⟩
    simp only [same]

theorem intercept_query_super (isolated : config.tenant.isolation = .line) (table : String)
    (active : caller.tenant.id? = some config.tenant.superTenant) :
    (intercept config false caller (.query table)).filter = none := by
  rw [intercept_query isolated, Option.eq_none_iff_forall_ne_some]
  intro predicate present
  obtain ⟨id, own, held, -⟩ := TenantLine.predicate_eq_some.1 present
  have ordinary := ((TenantLine.bypasses_eq_false own).1 held).2
  exact ordinary (Option.some.inj (own.symm.trans active))

theorem intercept_insert (config : GuardConfig) (suspended : Bool) (caller : Caller)
    (insert : s.kind = .insert) :
    ((lineApplies config suspended s = true → ∀ owner, ¬FilledIn config caller s owner) ∧
        intercept config suspended caller s = s) ∨
      ∃ owner, FilledIn config caller s owner ∧
        intercept config suspended caller s =
          { s with params := Table.insert config.tenant.tenantColumn owner.toJson s.params } := by
  have whole := intercept_eq config suspended caller s
  rw [filterOf_insert config suspended caller s insert] at whole
  rcases paramsOf_insert insert with ⟨unfilled, params⟩ | ⟨owner, filled, params⟩
  · rw [params] at whole
    exact .inl ⟨unfilled, whole⟩
  · rw [params] at whole
    exact .inr ⟨owner, filled, whole⟩

/-- What decides whether an insert is filled in decides whether a query of its table is held to a
tenant. -/
theorem filledIn_iff {query : Statement} (isolated : config.tenant.isolation = .line)
    (lacks : TenantLine.Lacks config.tenant s.params) (select : query.kind = .select)
    (table : query.table = s.table) (subject : query.ignoreTenantLine = false) :
    (∃ owner, FilledIn config caller s owner) ↔ linePart config false caller query ≠ none := by
  rw [linePart_select isolated select subject, Option.ne_none_iff_exists']
  constructor
  · rintro ⟨owner, active, guarded, -⟩
    rw [← table] at guarded
    exact ⟨_, TenantLine.predicate_eq_some.2 ⟨owner, active, guarded, rfl⟩⟩
  · rintro ⟨predicate, demanded⟩
    obtain ⟨owner, active, guarded, -⟩ := TenantLine.predicate_eq_some.1 demanded
    rw [table] at guarded
    exact ⟨owner, active, guarded, lacks⟩

/-- Writing and reading under the tenant line agree. Where nothing exempts them from it, an insert
without a value for the tenant column gets one exactly if queries of its table in the same context
are held to a tenant. The row it then writes is accepted by a plain query of the table under the
same tenant and rejected under every other, but for the super tenant, whose queries are not
restricted. In no configuration does an insert change in anything but this one value, and a value
other than null stays. -/
theorem inserts_agree_with_queries (config : GuardConfig) (suspended : Bool) (caller : Caller)
    (s : Statement) (insert : s.kind = .insert) :
    let written := intercept config suspended caller s
    written = { s with params := written.params } ∧
      (∀ column, column ≠ config.tenant.tenantColumn →
        Table.find? column written.params = Table.find? column s.params) ∧
      (¬TenantLine.Lacks config.tenant s.params → written = s) ∧
      (TenantLine.Lacks config.tenant written.params → written = s) ∧
      (config.tenant.isolation = .line → s.ignoreTenantLine = false → suspended = false →
        TenantLine.Lacks config.tenant s.params →
        (∀ query : Statement, query.kind = .select → query.table = s.table →
          query.ignoreTenantLine = false →
          (¬TenantLine.Lacks config.tenant written.params ↔
            linePart config false caller query ≠ none)) ∧
        (¬TenantLine.Lacks config.tenant written.params →
          ∃ owner, caller.tenant.id? = some owner ∧
            ∀ reader id, reader.tenant.id? = some id →
              if id = config.tenant.superTenant then
                (intercept config false reader (.query s.table)).filter = none
              else
                ∃ filter, (intercept config false reader (.query s.table)).filter = some filter ∧
                  (Row.ofJson written.params).matches filter = .ok (decide (id = owner)))) := by
  intro written
  rcases intercept_insert config suspended caller insert with
    ⟨unfilled, same⟩ | ⟨owner, filled, changed⟩
  · have unchanged : written = s := same
    rw [unchanged]
    refine ⟨rfl, fun _ _ => rfl, fun _ => rfl, fun _ => rfl,
      fun isolated subject running lacks => ⟨fun query select table exempt => ?_, ?_⟩⟩
    · have applies : lineApplies config suspended s = true := by
        rw [lineApplies, isolated, subject, running]
        rfl
      rw [← filledIn_iff isolated lacks select table exempt]
      exact iff_of_false (fun filled => filled lacks) (not_exists.2 (unfilled applies))
    · intro filled
      exact absurd lacks filled
  · have holds : ¬TenantLine.Lacks config.tenant written.params := by
      unfold written
      rw [changed]
      exact TenantLine.not_lacks_insert config.tenant owner s.params
    have stored : Table.find? config.tenant.tenantColumn written.params = some owner.toJson := by
      unfold written
      rw [changed]
      exact Table.find?_insert_self config.tenant.tenantColumn owner.toJson s.params
    refine ⟨?_, fun column other => ?_, fun kept => absurd filled.lacks kept,
      fun lacks => absurd lacks holds, fun isolated _ _ lacks =>
        ⟨fun query select table exempt => ?_, fun _ => ⟨owner, filled.active, ?_⟩⟩⟩
    · unfold written
      rw [changed]
    · unfold written
      rw [changed]
      exact Table.find?_insert_other config.tenant.tenantColumn column owner.toJson s.params
        (Ne.symm other)
    · rw [← filledIn_iff isolated lacks select table exempt]
      exact iff_of_true holds ⟨owner, filled⟩
    · intro reader id active
      split
      · next super =>
        rw [super] at active
        exact intercept_query_super isolated s.table active
      · next ordinary => exact filled.seen isolated stored active ordinary

/-- Tenant 5 inserts an order whose tenant it leaves null: tenant 5 sees the order, tenant 6 does
not. -/
theorem inserts_agree_with_queries_five :
    let s : Statement :=
      { kind := .insert, table := "App.Orders",
        params := [("name", .str "widget"), ("tenant_id", .null)] }
    let five : Caller := ⟨⟨some ⟨5⟩⟩, none, true⟩
    let six : Caller := ⟨⟨some ⟨6⟩⟩, none, true⟩
    let row := Row.ofJson (intercept .standard false five s).params
    s.kind = .insert ∧
      (∃ filter, (intercept .standard false five (.query "App.Orders")).filter = some filter ∧
        row.matches filter = .ok true) ∧
      ∃ filter, (intercept .standard false six (.query "App.Orders")).filter = some filter ∧
        row.matches filter = .ok false := by
  intro s five six row
  obtain ⟨-, -, -, -, agree⟩ := inserts_agree_with_queries .standard false five s rfl
  have lacks : TenantLine.Lacks TenantConfig.standard s.params := by
    rintro value ⟨⟩
    rfl
  obtain ⟨held, seen⟩ := agree rfl rfl rfl lacks
  have demanded : linePart .standard false five (.query "App.Orders") ≠ none :=
    Option.isSome_iff_ne_none.1 (by decide)
  obtain ⟨owner, active, readers⟩ := seen ((held (.query "App.Orders") rfl rfl rfl).2 demanded)
  cases active
  have mine := readers five ⟨5⟩ rfl
  have theirs := readers six ⟨6⟩ rfl
  rw [if_neg (by decide)] at mine theirs
  exact ⟨rfl, mine, theirs⟩

end Interceptor

end RowGuard
