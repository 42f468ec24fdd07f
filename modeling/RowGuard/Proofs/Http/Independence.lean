import RowGuard.Access.Token
import RowGuard.DataSource.MySql
import RowGuard.Proofs.Http.Gates
/-!
Requests do not influence one another. All that a request leaves behind is a pool, and whoever needs
that pool later would otherwise have got one from the catalog, so no response tells whether there
were requests before.
-/
namespace RowGuard

variable {P : Type}

/-! ## Pools that could be had again -/

/-- Whether a pool can be made, and why it cannot, is up to the datasource alone. -/
def PoolFactory.Uniform (factory : PoolFactory P) : Prop :=
  ∀ source m n, (factory m source).map (fun _ => ()) = (factory n source).map fun _ => ()

theorem MySqlPool.factory_uniform (settings : PoolSettings) :
    PoolFactory.Uniform (MySqlPool.factory settings) := fun _ _ _ => rfl

namespace Router

variable {factory : PoolFactory P} {router after : Router P} {key : String} {pool : P}

/-- Every key with a pool has an entry in the catalog that a pool was made from. -/
def Renewable (factory : PoolFactory P) (router : Router P) : Prop :=
  ∀ entry ∈ router.registry.pools, ∃ source, Table.find? entry.1 router.catalog = some source ∧
    ∃ n made, factory n source = .ok made

theorem Renewable.fetch (renewable : router.Renewable factory)
    (got : router.fetch factory key = (.ok pool, after)) :
    after.Renewable factory ∧ after.catalog = router.catalog := by
  rcases fetch_eq_ok.1 got with ⟨-, rfl⟩ | ⟨-, rfl, source, listed, made⟩
  · exact ⟨renewable, rfl⟩
  · refine ⟨fun entry member => ?_, rfl⟩
    rcases Table.mem_of_mem_insert member with rfl | older
    · exact ⟨source, listed, router.created, pool, made⟩
    · exact renewable entry older

theorem Renewable.remove (renewable : router.Renewable factory) (key : String) :
    (router.remove key).2.Renewable factory := by
  intro entry member
  refine renewable entry ?_
  unfold Router.remove Registry.remove at member
  split at member
  · next fst snd removed =>
    split at removed
    · cases removed
      exact (Table.erase_sublist key router.registry.pools).subset member
    · cases removed
      exact member

theorem Renewable.verdict (renewable : router.Renewable factory) (uniform : factory.Uniform)
    (key : String) :
    (router.fetch factory key).1.map (fun _ => ()) =
      match Table.find? key router.catalog with
      | none => .error (.dataSourceNotFound key)
      | some source => (factory 0 source).map fun _ => () := by
  rw [fetch_eq]
  cases registered : router.registry.get? key with
  | some pool =>
    obtain ⟨source, listed, n, made, works⟩ :=
      renewable (key, pool) (Table.mem_of_find? registered)
    rw [listed]
    dsimp only
    rw [uniform source 0 n, works]
    rfl
  | none =>
    cases listed : Table.find? key router.catalog with
    | none => rfl
    | some source =>
      dsimp only
      rw [uniform source 0 router.created]
      cases factory router.created source <;> rfl

end Router

namespace Http

/-! ## What a response depends on -/

theorem handle_opened (config : GuardConfig) (caller : Caller) {stack other : List (Selection P)}
    (same : stack.map (·.key) = other.map (·.key)) (request : Request) :
    handle (.opened config caller stack) request =
      handle (.opened config caller other) request := by
  have top : stack.getLast?.map (·.key) = other.getLast?.map (·.key) := by
    rw [← List.getLast?_map, ← List.getLast?_map, same]
  have shown : showContext (.opened config caller stack) =
      showContext (.opened config caller other) := by
    unfold showContext
    rw [Scene.current_opened, Scene.current_opened, Scene.handedOn_opened, Scene.handedOn_opened]
    simp only [handedOnView, Option.bind_some, RequestContext.current, RequestContext.keys, top,
      same]
    rfl
  have previewed : previewStatement (.opened config caller stack) request =
      previewStatement (.opened config caller other) request := rfl
  rw [handle, handle, shown, previewed]

namespace App

variable {app after a b : App P} {now : Instant} {request : Request} {caller : Caller}
  {scene : Scene P}

/-- The applications differ in their pools at most. -/
structure Alike (a b : App P) : Prop where
  config : a.config = b.config
  users : a.users = b.users
  factory : a.factory = b.factory
  catalog : a.router.map Router.catalog = b.router.map Router.catalog

def Renewable (app : App P) : Prop :=
  ∀ router, app.router = some router → router.Renewable app.factory

theorem Alike.trans {c : App P} (one : a.Alike b) (two : b.Alike c) : a.Alike c :=
  ⟨one.config.trans two.config, one.users.trans two.users, one.factory.trans two.factory,
    one.catalog.trans two.catalog⟩

theorem Alike.recognize (alike : a.Alike b) (now : Instant) (request : Request) :
    a.recognize now request = b.recognize now request := by
  unfold App.recognize tenantOf
  rw [alike.config, alike.users]

theorem map_routeOf {α : Type} (see : Router P → α) (app : App P) (caller : Caller) :
    (app.routeOf caller).map (fun route => (see route.1, route.2)) =
      if app.config.tenant.isolation = .dataSource then
        (app.router.map see).bind fun seen => caller.tenant.id?.map fun id => (seen, id.text)
      else none := by
  unfold App.routeOf
  split
  · cases app.router with
    | none => rfl
    | some router => cases caller.tenant.id? <;> rfl
  · rfl

def answer (app : App P) (caller : Caller) (request : Request) : Response :=
  match (app.enter caller).1 with
  | .error e => .ofError e
  | .ok scene => handle scene request

theorem answer_unrouted (unrouted : app.routeOf caller = none) :
    app.answer caller request =
      handle (Scene.opened app.config caller ([] : List (Selection P))) request := by
  rw [answer, enter_eq, unrouted]

theorem answer_routed {router : Router P} {key : String}
    (route : app.routeOf caller = some (router, key)) :
    app.answer caller request =
      if Text.isBlankText key then .ofError (.invalidConfig "blank tenant datasource key")
      else
        match (router.fetch app.factory key).1.map fun _ => () with
        | .error e => .ofError e
        | .ok _ =>
          let selection : Selection P := ⟨0, key, none⟩
          handle (.opened app.config caller [selection]) request := by
  rw [answer, enter_eq, route]
  dsimp only
  by_cases blank : Text.isBlankText key = true
  · rw [if_pos blank, if_pos blank]
  · rw [if_neg blank, if_neg blank]
    obtain ⟨reason | pool, changed⟩ := router.fetch app.factory key
    · rfl
    · exact handle_opened app.config caller rfl request

theorem Alike.answer (alike : a.Alike b) (uniform : a.factory.Uniform) (renewable : a.Renewable)
    (other : b.Renewable) (caller : Caller) (request : Request) :
    a.answer caller request = b.answer caller request := by
  have routes : (a.routeOf caller).map (fun route => (route.1.catalog, route.2)) =
      (b.routeOf caller).map fun route => (route.1.catalog, route.2) := by
    rw [map_routeOf, map_routeOf, alike.config, alike.catalog]
  cases left : a.routeOf caller with
  | none =>
    rw [left] at routes
    have right : b.routeOf caller = none := Option.map_eq_none_iff.1 routes.symm
    rw [answer_unrouted left, answer_unrouted right, alike.config]
  | some route =>
    obtain ⟨router, key⟩ := route
    rw [left] at routes
    obtain ⟨⟨twin, same⟩, right, pair⟩ := Option.map_eq_some_iff.1 routes.symm
    obtain ⟨catalogs, rfl⟩ := Prod.mk.inj pair
    have twinUniform : b.factory.Uniform := alike.factory ▸ uniform
    have verdict := (renewable router (router_of_routeOf left)).verdict uniform same
    have twinVerdict := (other twin (router_of_routeOf right)).verdict twinUniform same
    have got : (router.fetch a.factory same).1.map (fun _ => ()) =
        (twin.fetch b.factory same).1.map fun _ => () := by
      rw [verdict, twinVerdict, catalogs, alike.factory]
    rw [answer_routed left, answer_routed right, alike.config, got]

theorem serveGuarded_fst (app : App P) (now : Instant) (request : Request) :
    (app.serveGuarded now request).1 =
      match app.recognize now request with
      | .error response => response
      | .ok caller => app.answer caller request := by
  unfold serveGuarded App.answer
  cases app.recognize now request with
  | error response => rfl
  | ok caller =>
    dsimp only
    obtain ⟨reason | scene, after⟩ := app.enter caller <;> rfl

theorem Alike.serve (alike : a.Alike b) (uniform : a.factory.Uniform) (renewable : a.Renewable)
    (other : b.Renewable) (now : Instant) (request : Request) :
    (a.serve now request).1 = (b.serve now request).1 := by
  by_cases health : request.path = "/health"
  · simp only [App.serve, health, beq_self_eq_true, if_true]
  · rw [serve_guarded health, serve_guarded health, serveGuarded_fst, serveGuarded_fst,
      alike.recognize now request]
    cases b.recognize now request with
    | error response => rfl
    | ok caller =>
      exact congrArg (sent request) (alike.answer uniform renewable other caller request)

/-! ## What a request leaves behind -/

theorem Renewable.enter (renewable : app.Renewable) (caller : Caller) :
    (app.enter caller).2.Renewable ∧ (app.enter caller).2.Alike app := by
  have same : app.Renewable ∧ app.Alike app := ⟨renewable, rfl, rfl, rfl, rfl⟩
  rw [enter_eq]
  cases route : app.routeOf caller with
  | none => exact same
  | some routed =>
    obtain ⟨router, key⟩ := routed
    have own := router_of_routeOf route
    dsimp only
    split_ifs
    · exact same
    · rcases got : router.fetch app.factory key with ⟨reason | pool, changed⟩
      · exact same
      · obtain ⟨kept, catalog⟩ := (renewable router own).fetch got
        refine ⟨fun other present => ?_, rfl, rfl, rfl, ?_⟩
        · cases present
          exact kept
        · rw [own]
          exact congrArg some catalog

theorem Renewable.serve (renewable : app.Renewable) (now : Instant) (request : Request) :
    (app.serve now request).2.Renewable ∧ (app.serve now request).2.Alike app := by
  have same : app.Renewable ∧ app.Alike app := ⟨renewable, rfl, rfl, rfl, rfl⟩
  by_cases health : request.path = "/health"
  · simpa only [App.serve, health, beq_self_eq_true, if_true] using same
  · rw [serve_guarded health]
    unfold serveGuarded
    cases app.recognize now request with
    | error response => exact same
    | ok caller =>
      have left := renewable.enter caller
      dsimp only
      generalize app.enter caller = result at left
      obtain ⟨reason | scene, after⟩ := result <;> exact left

def remove (app : App P) (key : String) : App P :=
  { app with router := app.router.map fun router => (router.remove key).2 }

theorem Renewable.remove (renewable : app.Renewable) (key : String) :
    (app.remove key).Renewable ∧ (app.remove key).Alike app := by
  refine ⟨fun router present => ?_, rfl, rfl, rfl, ?_⟩
  · obtain ⟨before, own, rfl⟩ := Option.map_eq_some_iff.1 present
    exact (renewable before own).remove key
  · rw [App.remove, Option.map_map]
    rfl

end App

/-! ## Runs -/

/-- What an application meets with: requests, and removals of pools between them. -/
inductive AppEvent where
  | request (now : Instant) (request : Request)
  | remove (key : String)

namespace App

def responses (app : App P) : List AppEvent → List Response
  | [] => []
  | .request now request :: rest =>
    (app.serve now request).1 :: (app.serve now request).2.responses rest
  | .remove key :: rest => (app.remove key).responses rest

/-- The response that an event gets from an application nobody has asked anything yet. -/
def firstResponse (app : App P) : AppEvent → Option Response
  | .request now request => some (app.serve now request).1
  | .remove _ => none

theorem responses_eq {app first : App P} (uniform : first.factory.Uniform)
    (fresh : first.Renewable) (renewable : app.Renewable) (alike : app.Alike first)
    (events : List AppEvent) : app.responses events = events.filterMap first.firstResponse := by
  induction events generalizing app with
  | nil => rfl
  | cons event rest ih =>
    cases event with
    | request now request =>
      obtain ⟨kept, still⟩ := renewable.serve now request
      have same := alike.serve (alike.factory ▸ uniform) renewable fresh now request
      rw [responses, same, ih kept (still.trans alike)]
      rfl
    | remove key =>
      obtain ⟨kept, still⟩ := renewable.remove key
      rw [responses, ih kept (still.trans alike)]
      rfl

/-- Requests do not influence one another. An application is built from a configuration, a provider
of callers and, where it has a router, a catalog, with no pool made yet. Whatever requests it gets,
at whatever times, and whichever pools are removed between them, the response to each is what the
application as it was built would have given to it, as long as it is up to the datasource alone
whether its pool can be made. -/
theorem requests_are_independent (config : GuardConfig) (factory : PoolFactory P)
    (users : UserProvider) (router : Option (Router P)) (app : App P)
    (uniform : factory.Uniform) (poolless : ∀ own, router = some own → own.registry.pools = [])
    (built : App.build config factory (some users) router = .ok app) (events : List AppEvent) :
    app.responses events = events.filterMap app.firstResponse := by
  have parts : app = ⟨config, users, factory, router⟩ := by
    unfold build at built
    dsimp only at built
    split_ifs at built
    exact (Except.ok.inj built).symm
  have fresh : app.Renewable := by
    intro own present entry member
    rw [parts] at present
    rw [poolless own present] at member
    cases member
  exact responses_eq (by rw [parts]; exact uniform) fresh fresh ⟨rfl, rfl, rfl, rfl⟩ events

/-- One tenant asks twice, and its pool is removed in between. -/
theorem requests_are_independent_removed :
    let source : DataSource :=
      { poolName := "five", driver := "mysql", url := "mysql://db/five"
        username := "u", password := "p" }
    let config : GuardConfig := { tenant := { isolation := .dataSource } }
    let app : App MySqlPool :=
      { config, users := .bearer (Token.verify "secret"), factory := MySqlPool.factory {}
        router := some { catalog := [("5", source)] } }
    let request : Request :=
      { method := "GET", target := "/context", headers := [("X-Tenant-Id", "5")] }
    app.responses [.request ⟨1, 0⟩ request, .remove "5", .request ⟨2, 0⟩ request] =
      [(app.serve ⟨1, 0⟩ request).1, (app.serve ⟨2, 0⟩ request).1] := by
  intro source config app request
  have poolless : ∀ own, app.router = some own → own.registry.pools = [] := by
    rintro own ⟨⟩
    rfl
  exact requests_are_independent config (MySqlPool.factory {}) app.users app.router app
    (MySqlPool.factory_uniform {}) poolless rfl _

end App

end Http

end RowGuard
