import RowGuard.Proofs.Access.Grants
import RowGuard.Proofs.Interception.Conjunction
import RowGuard.Proofs.Sql.Grouping
/-!
The text of an intercepted filter. However the literals of a statement are written, the predicates
of the data scope and of the tenant line stay conjuncts of their own in it: no quote is left open,
no parenthesis is closed early, and no disjunction goes around them.
-/
namespace RowGuard

open Sql

/-- A plain word under white space, or no alias at all. -/
def isPlainAlias (shortName : String) : Bool :=
  (Text.trim shortName).isEmpty || isPlainWord (Text.trim shortName)

theorem isPlain_bare (name : String) : (Column.bare name).isPlain = isPlainWord name := by
  rw [Column.isPlain, Column.bare, Option.all_none, Bool.and_true]

theorem isPlain_qualified {shortName name : String} (aliased : isPlainAlias shortName = true)
    (plain : isPlainWord name = true) : (Column.qualified shortName name).isPlain = true := by
  rw [isPlainAlias, Bool.or_eq_true] at aliased
  by_cases blank : (Text.trim shortName).isEmpty = true
  · simp only [Column.isPlain, Column.qualified, blank, if_true, plain, Option.all_none,
      Bool.and_self]
  · have word := aliased.resolve_left blank
    simp only [Column.isPlain, Column.qualified, blank, plain, word, Bool.false_eq_true, if_false,
      Option.all_some, Bool.and_self]

def EntityDescriptor.isPlain (d : EntityDescriptor) : Bool :=
  isPlainAlias d.tableAlias && [d.idColumn, d.deptIdColumn, d.userIdColumn, d.deptTable,
    d.roleDeptTable, d.roleIdColumn, d.ancestorsColumn].all isPlainWord

theorem EntityDescriptor.isPlain_iff {d : EntityDescriptor} :
    d.isPlain = true ↔ isPlainAlias d.tableAlias = true ∧ isPlainWord d.idColumn = true ∧
      isPlainWord d.deptIdColumn = true ∧ isPlainWord d.userIdColumn = true ∧
      isPlainWord d.deptTable = true ∧ isPlainWord d.roleDeptTable = true ∧
      isPlainWord d.roleIdColumn = true ∧ isPlainWord d.ancestorsColumn = true := by
  simp [isPlain]

theorem Role.condition_open {role : Role} {user : User} {d : EntityDescriptor} {e : Expr}
    (names : d.isPlain = true) (condition : role.condition user d = some e) :
    e.isPlain = true ∧ e.isOpen = true := by
  rw [EntityDescriptor.isPlain_iff] at names
  obtain ⟨tableAlias, id, deptId, userId, dept, roleDept, roleId, ancestors⟩ := names
  have deptColumn : d.deptColumn.isPlain = true := isPlain_qualified tableAlias deptId
  have ownerColumn : d.ownerColumn.isPlain = true := isPlain_qualified tableAlias userId
  rcases condition_cases condition with ⟨-, rfl⟩ | ⟨-, rfl⟩ | ⟨-, rfl⟩ | ⟨-, rfl⟩
  · simp [linkedDeptCondition, Expr.isPlain, Expr.isPlainFilter, Expr.isOpen, Expr.columnEq,
      isPlain_bare, deptColumn, deptId, roleDept, roleId]
  · simp [Expr.columnEq, Expr.isPlain, Expr.isOpen, deptColumn]
  · have call : isPlainWord "FIND_IN_SET" = true := by decide
    simp [deptTreeCondition, Expr.isPlain, Expr.arePlain, Expr.isPlainFilter, Expr.isOpen,
      Expr.isPlain_disjoin, Expr.columnEq, Expr.int, isPlain_bare, deptColumn, call, id, dept,
      ancestors]
  · simp [Expr.columnEq, Expr.isPlain, Expr.isOpen, ownerColumn]

theorem User.resolve_open {user : User} {d : EntityDescriptor} {predicate : Expr}
    (names : d.isPlain = true) (restricted : user.resolve d = .restricted predicate) :
    predicate.isPlain = true ∧ predicate.isOpen = true := by
  have each : ∀ e ∈ user.conditions d, e.isPlain = true ∧ e.isOpen = true := by
    intro e member
    obtain ⟨role, -, condition⟩ := List.mem_filterMap.1 member
    exact Role.condition_open names condition
  unfold User.resolve at restricted
  cases conditions : user.conditions d with
  | nil =>
    rw [conditions] at restricted
    split_ifs at restricted
    cases restricted
  | cons first rest =>
    rw [conditions] at each restricted
    split_ifs at restricted with full
    cases restricted
    obtain ⟨plain, isOpen⟩ := each first List.mem_cons_self
    exact Expr.foldl_disjoin_open plain isOpen
      (fun e member => (each e (List.mem_cons_of_mem first member)).1)

namespace Interceptor

open Token

/-- Every name that reaches the filter of a statement is a plain word. -/
structure PlainNames (config : GuardConfig) (s : Statement) : Prop where
  filter : ∀ e ∈ s.filter, e.isPlain = true
  descriptor : ∀ d ∈ s.descriptor, d.isPlain = true
  shortName : isPlainAlias (s.shortName.getD "") = true
  tenantColumn : isPlainWord config.tenant.tenantColumn = true

theorem PlainNames.scopePart_open {config : GuardConfig} {s : Statement}
    (names : PlainNames config s) (caller : Caller) :
    ∀ p ∈ scopePart config caller s, p.isPlain = true ∧ p.isOpen = true := by
  intro p present
  unfold scopePart at present
  cases descriptor : s.descriptor with
  | none => simp [descriptor] at present
  | some d =>
    have plain := names.descriptor d descriptor
    simp only [descriptor] at present
    split_ifs at present with applies
    · cases known : caller.user with
      | none =>
        rw [known] at present
        cases present
        exact ⟨rfl, rfl⟩
      | some user =>
        simp only [known] at present
        cases resolved : user.resolve d with
        | unrestricted => simp [resolved] at present
        | restricted predicate =>
          rw [resolved] at present
          cases present
          exact User.resolve_open plain resolved
        | denyAll =>
          rw [resolved] at present
          cases present
          exact ⟨rfl, rfl⟩
    · cases present

theorem PlainNames.linePart_simple {config : GuardConfig} {s : Statement}
    (names : PlainNames config s) (suspended : Bool) (caller : Caller) :
    ∀ p ∈ linePart config suspended caller s,
      p.isPlain = true ∧ p.isOpen = true ∧ p.isOr = false := by
  intro p present
  unfold linePart at present
  have column := isPlain_qualified names.shortName names.tenantColumn
  cases tenant : caller.tenant.id? with
  | none => simp [tenant] at present
  | some id =>
    simp only [tenant] at present
    split_ifs at present with applies
    · cases present
      exact ⟨by rw [Expr.columnEq, Expr.isPlain, Expr.isPlain, column]; rfl, rfl, rfl⟩
    · cases present

/-- The text of a predicate of the data scope as a conjunct: in parentheses behind a filter, and
where it is a disjunction. -/
def scopeConjunct (filter : Option Expr) (predicate : Expr) : String :=
  if filter.isSome || predicate.isOr then parenthesized predicate.render else predicate.render

theorem operandConjuncts_withScope {filter scope : Option Expr}
    (isOpen : ∀ p ∈ scope, p.isPlain = true ∧ p.isOpen = true) :
    ∀ e ∈ withScope filter scope, e.operandConjuncts =
      filter.toList.flatMap Expr.operandConjuncts ++ scope.toList.map (scopeConjunct filter) := by
  intro e present
  cases scope with
  | none =>
    rw [withScope, Option.mem_def] at present
    simp [present]
  | some predicate =>
    obtain ⟨plain, bare⟩ := isOpen predicate rfl
    cases filter with
    | none =>
      cases present
      rw [Expr.restrict, Expr.operandConjuncts_of_isOpen plain bare]
      simp [scopeConjunct]
    | some f =>
      cases present
      rw [Expr.restrict, Expr.operandConjuncts_conjoin, Expr.operandConjuncts_grouped plain bare]
      simp [scopeConjunct]

theorem operandConjuncts_withLine {filter line : Option Expr}
    (simple : ∀ p ∈ line, p.isPlain = true ∧ p.isOpen = true ∧ p.isOr = false) :
    ∀ e ∈ withLine filter line, e.operandConjuncts =
      filter.toList.flatMap Expr.operandConjuncts ++ line.toList.map Expr.render := by
  intro e present
  cases line with
  | none =>
    rw [withLine_none, Option.mem_def] at present
    simp [present]
  | some predicate =>
    obtain ⟨plain, bare, noDisjunction⟩ := simple predicate rfl
    have alone := Expr.operandConjuncts_of_isOpen plain bare
    rw [noDisjunction, if_neg (by simp)] at alone
    cases filter with
    | none =>
      cases present
      simpa using alone
    | some f =>
      cases present
      rw [Expr.operandConjuncts_conjoin, alone]
      simp

theorem exists_conjoin {filter scope line : Option Expr}
    (several : 2 ≤ ([filter, scope, line].filterMap id).length) :
    ∃ a b, withLine (withScope filter scope) line = some (Expr.conjoin a b) := by
  cases line with
  | some predicate =>
    cases before : withScope filter scope with
    | some e => exact ⟨e, predicate, rfl⟩
    | none =>
      obtain ⟨rfl, rfl⟩ := withScope_eq_none.1 before
      simp at several
  | none =>
    cases filter with
    | none => cases scope <;> simp at several
    | some f =>
      cases scope with
      | none => simp at several
      | some predicate => exact ⟨f, predicate.grouped, rfl⟩

theorem isPlain_withScope {filter scope : Option Expr}
    (plainFilter : ∀ e ∈ filter, e.isPlain = true) (plainScope : ∀ p ∈ scope, p.isPlain = true) :
    ∀ e ∈ withScope filter scope, e.isPlain = true := by
  intro e present
  cases scope with
  | none => exact plainFilter e present
  | some predicate =>
    have plain := plainScope predicate rfl
    cases present
    cases filter with
    | none => exact plain
    | some f =>
      rw [Expr.restrict, Expr.isPlain_conjoin, Expr.isPlain_grouped, plainFilter f rfl, plain,
        Bool.and_self]

theorem isPlain_withLine {filter line : Option Expr}
    (plainFilter : ∀ e ∈ filter, e.isPlain = true) (plainLine : ∀ p ∈ line, p.isPlain = true) :
    ∀ e ∈ withLine filter line, e.isPlain = true := by
  intro e present
  cases filter with
  | none => exact plainLine e present
  | some f =>
    have plain := plainFilter f rfl
    cases line with
    | none =>
      cases present
      exact plain
    | some predicate =>
      cases present
      rw [Expr.isPlain_conjoin, plain, plainLine predicate rfl, Bool.and_self]

/-- Injected predicates cannot be escaped. Where at least two of the filter of a statement, the
predicate of the data scope and the predicate of the tenant line meet, the text they are written to
has a reading, whatever its literals hold: every quote is closed, no parenthesis is left open or
closed early, and no disjunction stands outside of them. The conjuncts of the text are those of the
original filter, then the predicate of the data scope, and last the predicate of the tenant line. -/
theorem injected_predicates_contained (config : GuardConfig) (suspended : Bool) (caller : Caller)
    (s : Statement) (names : PlainNames config s)
    (several : 2 ≤ ((parts config suspended caller s).filterMap id).length) :
    ∃ text tokens, (intercept config suspended caller s).whereClause = some text ∧
      Token.read text.toList = some tokens ∧ Balanced tokens ∧ Free "OR" tokens ∧
      conjuncts tokens = s.filter.toList.flatMap Expr.operandConjuncts ++
        (scopePart config caller s).toList.map (scopeConjunct s.filter) ++
        (linePart config suspended caller s).toList.map Expr.render := by
  have isOpen := names.scopePart_open caller
  have simple := names.linePart_simple suspended caller
  obtain ⟨a, b, joined⟩ := exists_conjoin several
  have plain : (Expr.conjoin a b).isPlain = true :=
    isPlain_withLine
      (isPlain_withScope names.filter fun p present => (isOpen p present).1)
      (fun p present => (simple p present).1) _ joined
  refine ⟨(Expr.conjoin a b).render, (Expr.conjoin a b).tokens, ?_,
    (Expr.reads_render _ plain).whole, Expr.balanced_tokens _, Expr.free_or _ plain rfl, ?_⟩
  · rw [Statement.whereClause, intercept_filter, joined, Option.map_some]
  · have whole : conjuncts (Expr.conjoin a b).tokens = _ :=
      operandConjuncts_withLine simple _ joined
    rw [whole]
    cases before : withScope s.filter (scopePart config caller s) with
    | none =>
      obtain ⟨noFilter, noScope⟩ := withScope_eq_none.1 before
      rw [noFilter, noScope]
      rfl
    | some e =>
      rw [Option.toList_some, List.flatMap_singleton,
        operandConjuncts_withScope isOpen e before]

/-- A literal with a backslash, a quote, a parenthesis and a comment in it stays one literal, and the
two roles and the tenant of the caller stay conjuncts behind it. -/
theorem injected_predicates_contained_quoted :
    ∃ text tokens,
      (intercept .standard false
        ⟨⟨some ⟨-5⟩⟩, some ⟨⟨7⟩, ⟨3⟩, .ofList [⟨⟨1⟩, .ownRows⟩, ⟨⟨2⟩, .dept⟩]⟩, true⟩
        { kind := .select, table := "orders", shortName := some "o",
          filter := some (.or (.columnEq (.bare "note") (.text "\\' OR 1 = 1) -- "))
            (.columnEq (.bare "note") .null)),
          descriptor := some .standard }).whereClause = some text ∧
      Token.read text.toList = some tokens ∧ Balanced tokens ∧ Free "OR" tokens ∧
      conjuncts tokens = ["(note = '\\\\'' OR 1 = 1) -- ' OR note = NULL)",
        "(user_id = 7 OR dept_id = 3)", "o.tenant_id = -5"] := by
  obtain ⟨text, tokens, written, reads, balanced, free, cut⟩ :=
    injected_predicates_contained .standard false
      ⟨⟨some ⟨-5⟩⟩, some ⟨⟨7⟩, ⟨3⟩, .ofList [⟨⟨1⟩, .ownRows⟩, ⟨⟨2⟩, .dept⟩]⟩, true⟩
      { kind := .select, table := "orders", shortName := some "o",
        filter := some (.or (.columnEq (.bare "note") (.text "\\' OR 1 = 1) -- "))
          (.columnEq (.bare "note") .null)),
        descriptor := some .standard }
      ⟨fun e present => by cases present; decide, fun d present => by cases present; decide,
        by decide, by decide⟩ (by decide)
  exact ⟨text, tokens, written, reads, balanced, free, cut.trans (by decide +kernel)⟩
end Interceptor

end RowGuard
