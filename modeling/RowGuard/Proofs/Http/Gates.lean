import Mathlib.Tactic.SplitIfs
import RowGuard.Http.App
import RowGuard.Proofs.DataSource.Router
/-!
The gates in front of a handler. Each is described by what it lets through and by what it answers
otherwise, and what a handler sees by the caller and the stack of its context.
-/
namespace RowGuard.Http

variable {P : Type}

/-! ## What a handler sees -/

namespace Scene

def opened (config : GuardConfig) (caller : Caller) (stack : List (Selection P)) : Scene P :=
  ⟨config, Task.bare.inContext 0, ⟨[(0, ⟨caller, stack⟩)], 1, stack.length⟩⟩

variable (config : GuardConfig) (caller : Caller) (stack : List (Selection P))

theorem current_opened : (opened config caller stack).current = some ⟨caller, stack⟩ := rfl

theorem handedOn_opened : (opened config caller stack).handedOn = some ⟨caller, stack⟩ := rfl

end Scene

/-- A response as it is sent: without its body to those who only ask for the head. -/
def sent (request : Request) (response : Response) : Response :=
  if App.asksForHead request then response.bare else response

namespace App

variable {app after : App P} {now : Instant} {request : Request} {caller : Caller}
  {scene : Scene P}

/-! ## The first gate -/

theorem filter_isSuper (config : TenantConfig) (id? : Option TenantId) :
    id?.filter config.isSuper =
      if id? = some config.superTenant then some config.superTenant else none := by
  cases id? with
  | none => rfl
  | some id =>
    rw [Option.filter_some, TenantConfig.isSuper]
    by_cases same : id = config.superTenant <;> simp [same]

/-- Whom the first gate lets through: a caller the provider knows, under the tenant the request
names, and under the super tenant only one who may act as such. -/
theorem recognize_eq_ok :
    app.recognize now request = .ok caller ↔
      ∃ identity, app.users.identify now request.headers = .ok identity ∧
        caller = ⟨app.tenantOf request, identity.user, identity.dataScope⟩ ∧
        ((app.tenantOf request).id? = some app.config.tenant.superTenant →
          identity.mayBeSuper = true) := by
  unfold recognize
  cases known : app.users.identify now request.headers with
  | error e => simp
  | ok identity =>
    dsimp only
    rw [filter_isSuper]
    simp only [Except.ok.injEq, exists_eq_left']
    by_cases named : (app.tenantOf request).id? = some app.config.tenant.superTenant
    · by_cases may : identity.mayBeSuper = true
      · simp only [named, may, if_true, Except.ok.injEq, implies_true, and_true]
        exact eq_comm
      · simp [named, may]
    · simp only [named, if_false, Except.ok.injEq, false_implies, and_true]
      exact eq_comm

theorem recognize_eq_error {response : Response} :
    app.recognize now request = .error response ↔
      (∃ e, app.users.identify now request.headers = .error e ∧ response = .ofError e) ∨
        ∃ identity, app.users.identify now request.headers = .ok identity ∧
          (app.tenantOf request).id? = some app.config.tenant.superTenant ∧
          identity.mayBeSuper = false ∧
          response = .failure 403 "super_tenant_forbidden"
            ("caller may not act as tenant " ++ app.config.tenant.superTenant.text) := by
  unfold recognize
  cases known : app.users.identify now request.headers with
  | error e =>
    simp only [Except.error.injEq, exists_eq_left', reduceCtorEq, false_and, exists_false, or_false]
    exact eq_comm
  | ok identity =>
    dsimp only
    rw [filter_isSuper]
    simp only [reduceCtorEq, false_and, exists_false, Except.ok.injEq, exists_eq_left', false_or]
    by_cases named : (app.tenantOf request).id? = some app.config.tenant.superTenant
    · by_cases may : identity.mayBeSuper = true
      · simp [named, may]
      · simp only [named, may, if_true, Bool.false_eq_true, if_false, Except.error.injEq, true_and]
        exact eq_comm
    · simp [named]

/-! ## The second gate -/

theorem router_of_routeOf {router : Router P} {key : String}
    (routed : app.routeOf caller = some (router, key)) : app.router = some router := by
  unfold routeOf at routed
  split_ifs at routed
  obtain ⟨own, present, rest⟩ := Option.bind_eq_some_iff.1 routed
  obtain ⟨id, -, same⟩ := Option.bind_eq_some_iff.1 rest
  cases same
  exact present

/-- What the second gate opens: the bare context where no datasource is selected, and else the
context with the one selection whose pool is got from the router. Where it stays shut, the
application is left as it was. -/
theorem enter_eq (app : App P) (caller : Caller) :
    app.enter caller =
      match app.routeOf caller with
      | none => (.ok (.opened app.config caller []), app)
      | some (router, key) =>
        if Text.isBlankText key then (.error (.invalidConfig "blank tenant datasource key"), app)
        else match router.fetch app.factory key with
          | (.error reason, _) => (.error reason, app)
          | (.ok pool, after) => (.ok (.opened app.config caller [⟨0, key, some (.own pool)⟩]),
              { app with router := some after }) := by
  unfold enter
  cases routed : app.routeOf caller with
  | none => rfl
  | some route =>
    obtain ⟨router, key⟩ := route
    have same : { app with router := some router } = app := by rw [← router_of_routeOf routed]
    dsimp only
    by_cases blank : Text.isBlankText key = true
    · have refused :
          Router.contextFor (Task.bare.inContext (ContextStore.start (P := P) {} caller).1)
              (ContextStore.start (P := P) {} caller).2 key =
            .error (.invalidConfig "blank tenant datasource key") :=
        Router.contextFor_eq_error.2 (.inl ⟨blank, rfl⟩)
      rw [if_pos blank, Router.select, refused]
      exact congrArg (Prod.mk _) same
    · have admitted :
          Router.contextFor (Task.bare.inContext (ContextStore.start (P := P) {} caller).1)
              (ContextStore.start (P := P) {} caller).2 key = .ok 0 :=
        Router.contextFor_eq_ok.2 ⟨blank, rfl, rfl⟩
      rw [if_neg blank, Router.select_eq router app.factory admitted]
      rcases fetched : router.fetch app.factory key with ⟨reason | pool, changed⟩
      · obtain ⟨rfl, -⟩ := Router.fetch_eq_error.1 fetched
        exact congrArg (Prod.mk _) same
      · rfl

theorem current_of_enter (entered : app.enter caller = (.ok scene, after)) :
    ∃ stack, scene = .opened app.config caller stack := by
  rw [enter_eq] at entered
  split at entered
  · cases entered
    exact ⟨[], rfl⟩
  · split_ifs at entered
    · cases entered
    · split at entered
      · cases entered
      · cases entered
        exact ⟨_, rfl⟩

theorem enter_error {reason : GuardError} (refused : app.enter caller = (.error reason, after)) :
    after = app := by
  rw [enter_eq] at refused
  split at refused
  · cases refused
  · split_ifs at refused
    · cases refused
      rfl
    · split at refused
      · cases refused
        rfl
      · cases refused

/-! ## Both gates -/

/-- What the handler of a request sees, and the application behind it, where both gates let the
request through. -/
def handled (app : App P) (now : Instant) (request : Request) : Option (Scene P × App P) :=
  match app.recognize now request with
  | .error _ => none
  | .ok caller =>
    match app.enter caller with
    | (.error _, _) => none
    | (.ok scene, after) => some (scene, after)

theorem handled_eq_some :
    app.handled now request = some (scene, after) ↔
      ∃ caller, app.recognize now request = .ok caller ∧ app.enter caller = (.ok scene, after) := by
  unfold handled
  cases app.recognize now request with
  | error response => simp
  | ok caller => rcases entered : app.enter caller with ⟨reason | opened, left⟩ <;> simp [entered]

theorem serveGuarded_handled (handled : app.handled now request = some (scene, after)) :
    app.serveGuarded now request = (handle scene request, after) := by
  obtain ⟨caller, recognized, entered⟩ := handled_eq_some.1 handled
  simp only [serveGuarded, recognized, entered]

theorem serveGuarded_refused {response : Response}
    (refused : app.recognize now request = .error response) :
    app.handled now request = none ∧ app.serveGuarded now request = (response, app) := by
  simp only [handled, serveGuarded, refused, and_self]

theorem serve_guarded (guarded : request.path ≠ "/health") :
    app.serve now request =
      (sent request (app.serveGuarded now request).1, (app.serveGuarded now request).2) := by
  simp only [serve, sent, beq_iff_eq, guarded, if_false]

end App

end RowGuard.Http
