import RowGuard.Proofs.DataSource.Ownership
import RowGuard.Proofs.Http.Independence
import RowGuard.Proofs.Http.SuperTenant
import RowGuard.Proofs.Number.Spelling
/-!
Requests under datasource isolation. A request that names a tenant, in whatever spelling, is pinned
to the pool registered under the text of the tenant's number while it is handled, and one that names
none is pinned to nothing. Over runs of requests and removals a tenant keeps its pool until that is
removed, and no two tenants ever have one pool.
-/
namespace RowGuard.Http

variable {P : Type}

def Names (config : GuardConfig) (request : Request) (t : Int) : Prop :=
  ∃ spelling, request.headers.text? config.tenant.tenantHeader = some spelling ∧
    Integer.Spells spelling t

theorem Names.unique {config : GuardConfig} {request : Request} {t u : Int}
    (one : Names config request t) (two : Names config request u) : t = u := by
  obtain ⟨first, sent, spelled⟩ := one
  obtain ⟨second, again, other⟩ := two
  rw [sent] at again
  cases again
  exact spelled.unique other

theorem Names.text_injective {config : GuardConfig} {request other : Request} {t u : Int}
    (one : Names config request t) (two : Names config other u)
    (same : Integer.text t = Integer.text u) : t = u := by
  obtain ⟨-, -, -, first⟩ := one
  obtain ⟨-, -, -, second⟩ := two
  have left := Integer.toInt_ofInt first.1 first.2
  have right := Integer.toInt_ofInt second.1 second.2
  rw [← left, ← right] at same ⊢
  rw [Integer.text_injective same]

namespace Scene

variable {config : GuardConfig} {caller : Caller} {key : String} {pool : P} {t : Int}

/-- The one key on the stack of the context. -/
def ServedUnder (scene : Scene P) (key : String) : Prop :=
  ∃ ctx, scene.current = some ctx ∧ ctx.keys = [key]

/-- The pool for work in the context, whatever happens to the router meanwhile. -/
def Uses (scene : Scene P) (pool : P) : Prop :=
  ∀ router : Router P, router.currentPool scene.current = some pool

structure Pinned (scene : Scene P) (t : Int) (pool : P) : Prop where
  tenant : ∃ ctx id, scene.current = some ctx ∧ ctx.caller.tenant.id? = some id ∧
    id.value.toInt = t
  stack : scene.ServedUnder (Integer.text t)
  uses : scene.Uses pool

/-- Work that is handed on sees the tenant, the user and the selections that the handler sees, and
what the handler sees stays as it is. -/
def HandsOn (scene : Scene P) : Prop :=
  scene.handedOn = scene.current ∧
    scene.task.current (scene.task.capture scene.contexts).2 = scene.current

theorem handsOn_opened (config : GuardConfig) (caller : Caller) (stack : List (Selection P)) :
    (opened config caller stack).HandsOn :=
  ⟨rfl, rfl⟩

theorem ServedUnder.unique {scene : Scene P} {other : String} (one : scene.ServedUnder key)
    (two : scene.ServedUnder other) : key = other := by
  obtain ⟨ctx, current, keys⟩ := one
  obtain ⟨again, same, others⟩ := two
  rw [current] at same
  cases same
  rw [keys] at others
  exact (List.cons.inj others).1

theorem Uses.unique {scene : Scene P} {other : P} (one : scene.Uses pool)
    (two : scene.Uses other) : pool = other := by
  have first := one {}
  rw [two {}] at first
  exact (Option.some.inj first).symm

theorem pinned_opened {id : TenantId} (named : caller.tenant.id? = some id) (pool : P) :
    (opened config caller [⟨0, id.text, some (.own pool)⟩]).Pinned id.value.toInt pool where
  tenant := ⟨_, id, rfl, named, rfl⟩
  stack := ⟨_, rfl, rfl⟩
  uses _ := rfl

end Scene

namespace App

variable {app after : App P} {now : Instant} {request : Request} {caller : Caller}
  {scene : Scene P} {router : Router P} {t : Int}

theorem names_iff :
    Names app.config request t ↔
      ∃ id, (app.tenantOf request).id? = some id ∧ id.value.toInt = t := by
  constructor
  · rintro ⟨spelling, sent, spelled⟩
    have value := Integer.toInt_ofInt spelled.2.1 spelled.2.2
    refine ⟨⟨Int64.ofInt t⟩, tenantOf_eq_some.2 ⟨spelling, sent, ?_⟩, value⟩
    rw [TenantId.read_eq_ok, value]
    exact spelled
  · rintro ⟨id, named, rfl⟩
    obtain ⟨spelling, sent, read⟩ := tenantOf_eq_some.1 named
    exact ⟨spelling, sent, TenantId.read_eq_ok.1 read⟩

/-! ## One request -/

/-- A request that both gates let through to a handler, with what the handler sees. -/
def Reaches (app : App P) (now : Instant) (request : Request) (scene : Scene P)
    (after : App P) : Prop :=
  request.path ≠ "/health" ∧ app.handled now request = some (scene, after)

theorem Reaches.serve (reaches : app.Reaches now request scene after) :
    app.serve now request = (sent request (handle scene request), after) := by
  rw [serve_guarded reaches.1, serveGuarded_handled reaches.2]

theorem serve_snd (app : App P) (now : Instant) (request : Request) :
    (app.serve now request).2 = app ∨
      ∃ scene, app.Reaches now request scene (app.serve now request).2 := by
  by_cases health : request.path = "/health"
  · left
    simp only [App.serve, health, beq_self_eq_true, if_true]
  · rw [serve_guarded health]
    cases recognized : app.recognize now request with
    | error response =>
      left
      rw [(serveGuarded_refused recognized).2]
    | ok caller =>
      rcases entered : app.enter caller with ⟨reason | scene, after⟩
      · left
        cases enter_error entered
        simp only [serveGuarded, recognized, entered]
      · have handled := handled_eq_some.2 ⟨caller, recognized, entered⟩
        right
        rw [serveGuarded_handled handled]
        exact ⟨scene, health, handled⟩

structure Isolated (app : App P) (router : Router P) : Prop where
  mode : app.config.tenant.isolation = .dataSource
  own : app.router = some router

theorem Isolated.routeOf (isolated : app.Isolated router) (caller : Caller) :
    app.routeOf caller = caller.tenant.id?.map fun id => (router, id.text) := by
  unfold App.routeOf
  rw [if_pos isolated.mode, isolated.own]
  cases caller.tenant.id? <;> rfl

theorem Isolated.enter_named (isolated : app.Isolated router) {id : TenantId}
    (named : caller.tenant.id? = some id) :
    app.enter caller = (.ok scene, after) ↔
      ∃ pool own, router.fetch app.factory id.text = (.ok pool, own) ∧
        scene = .opened app.config caller [⟨0, id.text, some (.own pool)⟩] ∧
        after = { app with router := some own } := by
  have visible : ¬Text.isBlankText id.text = true := by
    rw [TenantId.text, Integer.isBlankText_text]
    exact Bool.false_ne_true
  rw [enter_eq, isolated.routeOf, named]
  dsimp only [Option.map_some]
  rw [if_neg visible]
  rcases router.fetch app.factory id.text with ⟨reason | pool, own⟩
  · simp
  · constructor
    · intro entered
      cases entered
      exact ⟨pool, own, rfl, rfl, rfl⟩
    · rintro ⟨_, _, got, rfl, rfl⟩
      cases got
      rfl

theorem Isolated.enter_unnamed (isolated : app.Isolated router)
    (unnamed : caller.tenant.id? = none) :
    app.enter caller = (.ok (.opened app.config caller []), app) := by
  rw [enter_eq, isolated.routeOf, unnamed]
  rfl

theorem Isolated.reaches_of_fetch (isolated : app.Isolated router)
    (guarded : request.path ≠ "/health") (recognized : app.recognize now request = .ok caller)
    {id : TenantId} (named : caller.tenant.id? = some id) {pool : P} {own : Router P}
    (got : router.fetch app.factory id.text = (.ok pool, own)) :
    app.Reaches now request (.opened app.config caller [⟨0, id.text, some (.own pool)⟩])
      { app with router := some own } := by
  have entered := (isolated.enter_named named).2 ⟨pool, own, got, rfl, rfl⟩
  exact ⟨guarded, handled_eq_some.2 ⟨caller, recognized, entered⟩⟩

theorem Isolated.reaches_named (isolated : app.Isolated router)
    (reaches : app.Reaches now request scene after) (named : Names app.config request t) :
    ∃ pool own, router.fetch app.factory (Integer.text t) = (.ok pool, own) ∧
      after = { app with router := some own } ∧ scene.Pinned t pool ∧ scene.HandsOn := by
  obtain ⟨caller, recognized, entered⟩ := handled_eq_some.1 reaches.2
  obtain ⟨identity, -, rfl, -⟩ := recognize_eq_ok.1 recognized
  obtain ⟨id, tenant, rfl⟩ := names_iff.1 named
  obtain ⟨pool, own, got, rfl, rfl⟩ := (isolated.enter_named tenant).1 entered
  exact ⟨pool, own, got, rfl, Scene.pinned_opened tenant pool, Scene.handsOn_opened _ _ _⟩

theorem Isolated.reaches_unnamed (isolated : app.Isolated router)
    (reaches : app.Reaches now request scene after) (unnamed : ∀ t, ¬Names app.config request t) :
    after = app ∧ (∃ ctx, scene.current = some ctx ∧ ctx.keys = []) ∧ scene.HandsOn := by
  obtain ⟨caller, recognized, entered⟩ := handled_eq_some.1 reaches.2
  obtain ⟨identity, -, rfl, -⟩ := recognize_eq_ok.1 recognized
  have none : (app.tenantOf request).id? = none := by
    cases tenant : (app.tenantOf request).id? with
    | none => rfl
    | some id => exact absurd (names_iff.2 ⟨id, tenant, rfl⟩) (unnamed id.value.toInt)
  rw [isolated.enter_unnamed none] at entered
  cases entered
  exact ⟨rfl, ⟨_, rfl, rfl⟩, Scene.handsOn_opened _ _ _⟩

theorem Isolated.servedUnder_iff (isolated : app.Isolated router)
    (reaches : app.Reaches now request scene after) {key : String} :
    scene.ServedUnder key ↔ ∃ t, Names app.config request t ∧ key = Integer.text t := by
  constructor
  · intro served
    by_cases named : ∃ t, Names app.config request t
    · obtain ⟨t, named⟩ := named
      obtain ⟨pool, own, -, -, pinned, -⟩ := isolated.reaches_named reaches named
      exact ⟨t, named, served.unique pinned.stack⟩
    · obtain ⟨-, ⟨ctx, current, nothing⟩, -⟩ :=
        isolated.reaches_unnamed reaches (not_exists.1 named)
      obtain ⟨again, same, keys⟩ := served
      rw [current] at same
      cases same
      rw [nothing] at keys
      cases keys
  · rintro ⟨t, named, rfl⟩
    obtain ⟨pool, own, -, -, pinned, -⟩ := isolated.reaches_named reaches named
    exact pinned.stack

end App

/-! ## Runs -/

def AppEvent.removed : AppEvent → Option String
  | .request _ _ => none
  | .remove key => some key

namespace App

variable {app later : App P} {router own : Router P} {events : List AppEvent} {now : Instant}
  {request : Request} {scene : Scene P} {after : App P} {t : Int}

def step (app : App P) : AppEvent → App P
  | .request now request => (app.serve now request).2
  | .remove key => app.remove key

def run (app : App P) (events : List AppEvent) : App P := events.foldl step app

/-- What an application with a router has become in the course of events that removed some keys:
whatever was not removed is still registered, and if keys were kept apart, they still are, and pools
belong to the keys they belonged to. -/
structure Became (app : App P) (router : Router P) (removed : List (Option String))
    (later : App P) (own : Router P) : Prop where
  isolated : later.Isolated own
  config : later.config = app.config
  factory : later.factory = app.factory
  registered : ∀ key pool, some key ∉ removed → router.registry.get? key = some pool →
    own.registry.get? key = some pool
  separate : app.factory.Distinct → router.Separate app.factory → own.Separate app.factory
  owned : app.factory.Distinct → router.Separate app.factory →
    ∀ key pool, router.Owned app.factory key pool → own.Owned app.factory key pool

theorem Became.idle (isolated : app.Isolated router) (removed : List (Option String)) :
    app.Became router removed app router where
  isolated := isolated
  config := rfl
  factory := rfl
  registered _ _ _ registered := registered
  separate _ separate := separate
  owned _ _ _ _ owned := owned

theorem Became.trans {middle : App P} {between : Router P} {first second : List (Option String)}
    (one : app.Became router first middle between)
    (two : middle.Became between second later own) :
    app.Became router (first ++ second) later own where
  isolated := two.isolated
  config := two.config.trans one.config
  factory := two.factory.trans one.factory
  registered key pool kept registered := by
    rw [List.mem_append, not_or] at kept
    exact two.registered key pool kept.2 (one.registered key pool kept.1 registered)
  separate distinct separate := by
    have kept := two.separate
    rw [one.factory] at kept
    exact kept distinct (one.separate distinct separate)
  owned distinct separate key pool owned := by
    have kept := two.owned
    rw [one.factory] at kept
    exact kept distinct (one.separate distinct separate) key pool
      (one.owned distinct separate key pool owned)

theorem Became.of_changes {removed : Option String} (isolated : app.Isolated router)
    (changes : router.Changes app.factory removed own) :
    app.Became router [removed] { app with router := some own } own where
  isolated := ⟨isolated.mode, rfl⟩
  config := rfl
  factory := rfl
  registered key pool kept registered := by
    refine changes.registered (fun same => kept ?_) registered
    rw [same]
    exact List.mem_singleton_self _
  separate distinct separate := separate.changes distinct changes
  owned distinct separate _ _ owned := owned.changes distinct separate changes

theorem Became.of_reaches (isolated : app.Isolated router)
    (reaches : app.Reaches now request scene after) :
    ∃ own, app.Became router [none] after own := by
  by_cases named : ∃ t, Names app.config request t
  · obtain ⟨t, named⟩ := named
    obtain ⟨pool, own, got, rfl, -, -⟩ := isolated.reaches_named reaches named
    exact ⟨own, .of_changes isolated (Router.Changes.of_fetch got).1⟩
  · obtain ⟨untouched, -, -⟩ := isolated.reaches_unnamed reaches (not_exists.1 named)
    rw [untouched]
    exact ⟨router, .idle isolated [none]⟩

theorem Became.step (isolated : app.Isolated router) (event : AppEvent) :
    ∃ own, app.Became router [event.removed] (app.step event) own := by
  cases event with
  | request now request =>
    rcases serve_snd app now request with untouched | ⟨scene, reaches⟩
    · rw [App.step, untouched]
      exact ⟨router, .idle isolated _⟩
    · exact Became.of_reaches isolated reaches
  | remove key =>
    have removal : app.step (.remove key) = { app with router := some (router.remove key).2 } := by
      rw [App.step, App.remove, isolated.own]
      rfl
    rw [removal]
    exact ⟨_, .of_changes isolated (.remove key)⟩

theorem Became.run (isolated : app.Isolated router) (events : List AppEvent) :
    ∃ own, app.Became router (events.map AppEvent.removed) (app.run events) own := by
  induction events generalizing app router with
  | nil => exact ⟨router, .idle isolated []⟩
  | cons event rest ih =>
    obtain ⟨next, first⟩ := Became.step isolated event
    obtain ⟨own, others⟩ := ih first.isolated
    exact ⟨own, first.trans others⟩

/-! ## Pinning -/

theorem isolated_of_build {config : GuardConfig} {factory : PoolFactory P} {users : UserProvider}
    {router : Option (Router P)} (mode : config.tenant.isolation = .dataSource)
    (built : App.build config factory (some users) router = .ok app) :
    ∃ own, router = some own ∧ app.Isolated own ∧ app.config = config ∧ app.factory = factory := by
  unfold build at built
  dsimp only at built
  split at built
  · cases built
  · next complete =>
    cases router with
    | none => exact absurd ⟨mode, rfl⟩ complete
    | some own =>
      cases built
      exact ⟨own, rfl, ⟨mode, rfl⟩, rfl, rfl⟩

theorem Isolated.pinned (isolated : app.Isolated router)
    (reaches : app.Reaches now request scene after) :
    scene.HandsOn ∧
      (∀ t, Names app.config request t → ∃ pool own, scene.Pinned t pool ∧
        after.router = some own ∧ own.registry.get? (Integer.text t) = some pool) ∧
      ((∀ t, ¬Names app.config request t) → ∃ ctx, scene.current = some ctx ∧ ctx.keys = []) := by
  by_cases named : ∃ t, Names app.config request t
  · obtain ⟨t, named⟩ := named
    obtain ⟨pool, own, got, rfl, pinned, handsOn⟩ := isolated.reaches_named reaches named
    refine ⟨handsOn, fun u also => ?_, fun unnamed => absurd named (unnamed t)⟩
    rw [also.unique named]
    exact ⟨pool, own, pinned, rfl, (Router.Changes.of_fetch got).2⟩
  · have unnamed := not_exists.1 named
    obtain ⟨-, nothing, handsOn⟩ := isolated.reaches_unnamed reaches unnamed
    exact ⟨handsOn, fun t also => absurd also (unnamed t), fun _ => nothing⟩

theorem Isolated.one_key_iff (isolated : app.Isolated router)
    (reaches : app.Reaches now request scene after) {later : App P} {own : Router P}
    (still : later.Isolated own) (same : later.config = app.config) {now' : Instant}
    {request' : Request} {scene' : Scene P} {after' : App P}
    (reaches' : later.Reaches now' request' scene' after') :
    (∃ key, scene.ServedUnder key ∧ scene'.ServedUnder key) ↔
      ∃ t, Names app.config request t ∧ Names app.config request' t := by
  simp only [isolated.servedUnder_iff reaches, still.servedUnder_iff reaches', same]
  constructor
  · rintro ⟨_, ⟨t, named, rfl⟩, u, named', texts⟩
    rw [← named.text_injective named' texts] at named'
    exact ⟨t, named, named'⟩
  · rintro ⟨t, named, named'⟩
    exact ⟨Integer.text t, ⟨t, named, rfl⟩, t, named', rfl⟩

/-- A pool stays with its tenant. Where its key was not removed it is still registered, and where
the factory makes no pool twice it belongs to its key, so it is not the pool of another key
later. -/
theorem Isolated.one_pool_iff (isolated : app.Isolated router)
    (reaches : app.Reaches now request scene after) (named : Names app.config request t)
    {between : List AppEvent} {now' : Instant} {request' : Request} {scene' : Scene P}
    {after' : App P} (reaches' : (after.run between).Reaches now' request' scene' after') {u : Int}
    (named' : Names app.config request' u) {pool pool' : P} (uses : scene.Uses pool)
    (uses' : scene'.Uses pool') :
    (t = u → .remove (Integer.text t) ∉ between → pool' = pool) ∧
      (app.factory.Distinct → router.Separate app.factory → t ≠ u → pool' ≠ pool) := by
  obtain ⟨first, own, got, rfl, pinned, -⟩ := isolated.reaches_named reaches named
  rw [← pinned.uses.unique uses]
  -- The pool of the first request, and what has become of it when the second one is met.
  obtain ⟨changes, registered⟩ := Router.Changes.of_fetch got
  have one := Became.of_changes isolated changes
  obtain ⟨met, run⟩ := Became.run one.isolated between
  rw [← run.config] at named'
  -- The pool of the second request.
  obtain ⟨second, last, got', -, pinned', -⟩ := run.isolated.reaches_named reaches' named'
  rw [← pinned'.uses.unique uses']
  rw [run.factory] at got'
  obtain ⟨changes', registered'⟩ := Router.Changes.of_fetch got'
  constructor
  · rintro rfl kept
    have unremoved : some (Integer.text t) ∉ between.map AppEvent.removed := by
      intro member
      obtain ⟨event, among, same⟩ := List.mem_map.1 member
      cases event with
      | request now request => cases same
      | remove key =>
        cases same
        exact kept among
    have there := run.registered _ _ unremoved registered
    rw [Router.fetch_registered there] at got'
    cases got'
    rfl
  · rintro distinct separate different rfl
    have apart := one.separate distinct separate
    have owned := run.owned distinct apart _ _ (apart.owned (Integer.text t) second registered)
    have still := owned.changes distinct (run.separate distinct apart) changes'
    rw [run.config] at named'
    exact different (named.text_injective named' (still.alone _ registered').symm)

/-- Requests are pinned to their tenants under datasource isolation. Let an application be built
from any configuration of this kind, with any provider of callers, any factory and any router, and
take any request that reaches a handler after any course of requests and removals.

Whatever spells an integer in its tenant header, the handler and the work it hands on see that
tenant and exactly one selection, whose key is the decimal text of the integer and whose pool is the
one that is then registered for this key. If nothing is spelled there, nothing is selected.

Of two requests, with whatever happened between, both are served under one key exactly if both spell
one integer. If so, they have one pool as long as the key was not removed between them. Requests
that spell two integers never have one pool, where the factory never makes one pool twice and the
router kept its keys apart when the application was built, as one without pools does. -/
theorem requests_are_pinned (config : GuardConfig) (factory : PoolFactory P) (users : UserProvider)
    (router : Option (Router P)) (app : App P) (mode : config.tenant.isolation = .dataSource)
    (built : App.build config factory (some users) router = .ok app) (past : List AppEvent)
    (now : Instant) (request : Request) (scene : Scene P) (after : App P)
    (reaches : (app.run past).Reaches now request scene after) :
    (app.run past).serve now request = (sent request (handle scene request), after) ∧
    scene.HandsOn ∧
    (∀ t, Names config request t → Integer.DecimalText (Integer.text t) t ∧
      ∃ pool own, scene.Pinned t pool ∧ after.router = some own ∧
        own.registry.get? (Integer.text t) = some pool) ∧
    ((∀ t, ¬Names config request t) → ∃ ctx, scene.current = some ctx ∧ ctx.keys = []) ∧
    ∀ (between : List AppEvent) (later : Instant) (other : Request) (scene' : Scene P)
      (after' : App P), (after.run between).Reaches later other scene' after' →
      ((∃ key, scene.ServedUnder key ∧ scene'.ServedUnder key) ↔
        ∃ t, Names config request t ∧ Names config other t) ∧
      ∀ t u pool pool', Names config request t → Names config other u → scene.Uses pool →
        scene'.Uses pool' →
        (t = u → .remove (Integer.text t) ∉ between → pool' = pool) ∧
        (factory.Distinct → (∀ own ∈ router, own.Separate factory) → t ≠ u → pool' ≠ pool) := by
  obtain ⟨start, rfl, initial, rfl, rfl⟩ := isolated_of_build mode built
  obtain ⟨own, become⟩ := Became.run initial past
  obtain ⟨handsOn, named, unnamed⟩ := become.isolated.pinned reaches
  rw [← become.config]
  refine ⟨reaches.serve, handsOn, fun t names => ⟨Integer.decimalText_text t, named t names⟩,
    unnamed, ?_⟩
  intro between later other scene' after' reaches'
  obtain ⟨next, one⟩ := Became.of_reaches become.isolated reaches
  obtain ⟨met, run⟩ := Became.run one.isolated between
  have config := run.config.trans one.config
  refine ⟨become.isolated.one_key_iff reaches run.isolated config reaches', ?_⟩
  intro t u pool pool' named named' uses uses'
  obtain ⟨shares, apart⟩ := become.isolated.one_pool_iff reaches named reaches' named' uses uses'
  refine ⟨shares, fun distinct separate => apart ?_ ?_⟩
  · rw [become.factory]
    exact distinct
  · rw [become.factory]
    exact become.separate distinct (separate start rfl)

/-- One tenant in two spellings, and another tenant. -/
theorem requests_are_pinned_spellings :
    let config : GuardConfig := { tenant := { isolation := .dataSource } }
    let routed (pools : Table (Nat × Unit)) : Router (Nat × Unit) :=
      { catalog := [("-7", default), ("5", default)]
        registry := ⟨pools⟩
        created := pools.length }
    let app (pools : Table (Nat × Unit)) : App (Nat × Unit) :=
      { config, users := .fixed (.ok none), router := routed pools
        factory := PoolFactory.numbered fun _ _ => .ok () }
    let request (spelling : String) : Request :=
      { method := "GET", target := "/context", headers := [("X-Tenant-Id", spelling)] }
    let scene (t : Int64) (key : String) (n : Nat) : Scene (Nat × Unit) :=
      .opened config ⟨⟨some ⟨t⟩⟩, none, true⟩ [⟨0, key, some (.own (n, ()))⟩]
    let one : Table (Nat × Unit) := [("5", 0, ())]
    let both : Table (Nat × Unit) := [("-7", 1, ()), ("5", 0, ())]
    let five := scene 5 "5" 0
    let seven := scene (-7) "-7" 1
    ((app []).Reaches ⟨1, 0⟩ (request "+005") five (app one) ∧
      (app one).Reaches ⟨2, 0⟩ (request " 5\t") five (app one) ∧
      (app one).Reaches ⟨3, 0⟩ (request "-07") seven (app both)) ∧
    (∃ pool, five.Pinned 5 pool) ∧ (∃ key, five.ServedUnder key ∧ five.ServedUnder key) ∧
    ∀ pool pool', five.Uses pool → seven.Uses pool' → pool' ≠ pool := by
  intro config routed app request scene one both five seven
  have distinct : (app []).factory.Distinct := PoolFactory.numbered_distinct fun _ _ => .ok ()
  have separate : ∀ own ∈ (app []).router, own.Separate (app []).factory := by
    rintro own ⟨⟩
    exact Router.separate_of_poolless rfl
  have reaches (pools after : Table (Nat × Unit)) (now : Instant) (spelling : String)
      (id : TenantId) (key : String) (n : Nat)
      (named : (app []).tenantOf (request spelling) = ⟨some id⟩) (ordinary : id ≠ ⟨-1⟩)
      (text : id.text = key)
      (got : (routed pools).fetch (app []).factory key = (.ok (n, ()), routed after)) :
      (app pools).Reaches now (request spelling) (scene id.value key n) (app after) := by
    have isolated : (app pools).Isolated (routed pools) := ⟨rfl, rfl⟩
    have allowed : ((app []).tenantOf (request spelling)).id? = some config.tenant.superTenant →
        CallerIdentity.anonymous.mayBeSuper = true := by
      rw [named]
      intro super
      exact absurd (Option.some.inj super) ordinary
    have recognized : (app pools).recognize now (request spelling) = .ok ⟨⟨some id⟩, none, true⟩ :=
      recognize_eq_ok.2 ⟨.anonymous, rfl, by rw [← named]; rfl, allowed⟩
    have path : (request spelling).path = (request "").path := rfl
    have guarded : (request spelling).path ≠ "/health" := by
      rw [path]
      decide
    rw [← text] at got ⊢
    exact isolated.reaches_of_fetch guarded recognized rfl got
  have textFive : (⟨5⟩ : TenantId).text = "5" := by decide +kernel
  have textSeven : (⟨-7⟩ : TenantId).text = "-7" := by decide +kernel
  have plus : (app []).tenantOf (request "+005") = ⟨some ⟨5⟩⟩ := by decide
  have blank : (app []).tenantOf (request " 5\t") = ⟨some ⟨5⟩⟩ := by decide
  have minus : (app []).tenantOf (request "-07") = ⟨some ⟨-7⟩⟩ := by decide
  have first := reaches [] one ⟨1, 0⟩ "+005" ⟨5⟩ "5" 0 plus (by decide) textFive rfl
  have second := reaches one one ⟨2, 0⟩ " 5\t" ⟨5⟩ "5" 0 blank (by decide) textFive rfl
  have third := reaches one both ⟨3, 0⟩ "-07" ⟨-7⟩ "-7" 1 minus (by decide) textSeven rfl
  have namesPlus : Names (app []).config (request "+005") 5 := names_iff.2 ⟨⟨5⟩, by rw [plus], rfl⟩
  have namesBlank : Names (app []).config (request " 5\t") 5 :=
    names_iff.2 ⟨⟨5⟩, by rw [blank], rfl⟩
  have namesMinus : Names (app []).config (request "-07") (-7) :=
    names_iff.2 ⟨⟨-7⟩, by rw [minus], rfl⟩
  obtain ⟨-, -, pinned, -, others⟩ := requests_are_pinned config (app []).factory (app []).users
    (app []).router (app []) rfl rfl [] ⟨1, 0⟩ (request "+005") five _ first
  obtain ⟨-, pool, own, pinnedFive, -⟩ := pinned 5 namesPlus
  refine ⟨⟨first, second, third⟩, ⟨pool, pinnedFive⟩, ?_, fun pool pool' uses uses' => ?_⟩
  · exact (others [] _ _ five _ second).1.2 ⟨5, namesPlus, namesBlank⟩
  · exact ((others [] _ _ seven _ third).2 5 (-7) pool pool' namesPlus namesMinus uses uses').2
      distinct separate (by decide)

end App

end RowGuard.Http
