import RowGuard.DataSource.Router
import RowGuard.Proofs.Context.Store
/-!
What the registry and the router do with one key. A pool that is registered is taken as it is, a
pool that is not is made from the catalog's entry, and whatever refuses a selection leaves no pool.
-/
namespace RowGuard

namespace Registry

variable {P : Type}

theorem get?_insert (registry : Registry P) (key other : String) (pool : P) :
    (registry.insert key pool).get? other =
      if other = key then some pool else registry.get? other :=
  Table.find?_insert key other pool registry.pools

theorem get?_remove {registry : Registry P} (ascending : registry.pools.Ascending)
    (key other : String) :
    (registry.remove key).2.get? other = if other = key then none else registry.get? other := by
  unfold remove
  cases found : registry.get? key with
  | some pool => exact ascending.find?_erase key other
  | none =>
    by_cases same : other = key
    · rw [if_pos same, same]
      exact found
    · rw [if_neg same]

theorem ascending_remove {registry : Registry P} (ascending : registry.pools.Ascending)
    (key : String) : (registry.remove key).2.pools.Ascending := by
  unfold remove
  cases registry.get? key with
  | some pool => exact ascending.erase key
  | none => exact ascending

end Registry

namespace ContextStore

variable {P : Type} {store after : ContextStore P} {context : Nat} {key : String} {pool : P}

theorem select_eq_ok {ticket : Ticket} :
    store.select context key pool = (.ok ticket, after) ↔
      store.push context key (some (.own pool)) = some (ticket, after) := by
  unfold select
  cases store.push context key (some (.own pool)) <;> simp [Prod.ext_iff]

theorem select_eq_error {reason : GuardError} :
    store.select context key pool = (.error reason, after) ↔
      store.get? context = none ∧ reason = .noActiveContext ∧ after = store := by
  unfold select
  cases live : store.get? context with
  | none =>
    rw [push_eq_none live]
    simp [eq_comm]
  | some ctx =>
    rw [push_eq live]
    simp

end ContextStore

namespace Router

variable {P : Type}

def register (router : Router P) (key : String) (pool : P) : Router P :=
  { router with registry := router.registry.insert key pool, created := router.created + 1 }

/-- The second look at the registry decides whether the factory is called. -/
theorem obtain_eq (router : Router P) (factory : PoolFactory P) (key : String)
    (source : DataSource) :
    router.obtain factory key source =
      match router.registry.get? key with
      | some pool => (.ok pool, router)
      | none =>
        match factory router.created source with
        | .error reason => (.error reason, router)
        | .ok pool => (.ok pool, router.register key pool) := by
  unfold Router.obtain Registry.obtain
  cases router.registry.get? key with
  | some pool => rfl
  | none =>
    have called : (factory.make source).run router.created =
        match factory router.created source with
        | .error reason => (.error reason, router.created)
        | .ok pool => (.ok pool, router.created + 1) := rfl
    dsimp only
    rw [StateT.run_bind, called]
    cases factory router.created source <;> rfl

theorem obtain_eq_ok {router after : Router P} {factory : PoolFactory P} {key : String}
    {source : DataSource} {pool : P} :
    router.obtain factory key source = (.ok pool, after) ↔
      (router.registry.get? key = some pool ∧ after = router) ∨
        (router.registry.get? key = none ∧ after = router.register key pool ∧
          factory router.created source = .ok pool) := by
  rw [obtain_eq]
  cases registered : router.registry.get? key with
  | some old => simp [eq_comm]
  | none =>
    cases made : factory router.created source with
    | error reason => simp
    | ok fresh =>
      simp only [Prod.mk.injEq, Except.ok.injEq, reduceCtorEq, false_and, true_and, false_or]
      constructor
      · rintro ⟨rfl, rfl⟩
        exact ⟨rfl, rfl⟩
      · rintro ⟨rfl, rfl⟩
        exact ⟨rfl, rfl⟩

theorem obtain_eq_error {router after : Router P} {factory : PoolFactory P} {key : String}
    {source : DataSource} {reason : GuardError} :
    router.obtain factory key source = (.error reason, after) ↔
      after = router ∧ router.registry.get? key = none ∧
        factory router.created source = .error reason := by
  rw [obtain_eq]
  cases registered : router.registry.get? key with
  | some old => simp
  | none => cases made : factory router.created source <;> simp [eq_comm, and_comm]

theorem fetch_eq (router : Router P) (factory : PoolFactory P) (key : String) :
    router.fetch factory key =
      match router.registry.get? key with
      | some pool => (.ok pool, router)
      | none =>
        match Table.find? key router.catalog with
        | none => (.error (.dataSourceNotFound key), router)
        | some source =>
          match factory router.created source with
          | .error reason => (.error reason, router)
          | .ok pool => (.ok pool, router.register key pool) := by
  unfold Router.fetch Router.consult
  cases registered : router.registry.get? key with
  | some pool => rfl
  | none =>
    cases found : Table.find? key router.catalog with
    | none => rfl
    | some source =>
      dsimp only
      rw [obtain_eq, registered]

theorem fetch_registered {router : Router P} {key : String} {pool : P}
    (registered : router.registry.get? key = some pool) (factory : PoolFactory P) :
    router.fetch factory key = (.ok pool, router) := by
  rw [fetch_eq, registered]

/-- What it means to get a pool: it is the registered one and nothing is changed, or none was
registered and the factory made one from what the catalog holds for the key. -/
theorem fetch_eq_ok {router after : Router P} {factory : PoolFactory P} {key : String} {pool : P} :
    router.fetch factory key = (.ok pool, after) ↔
      (router.registry.get? key = some pool ∧ after = router) ∨
        (router.registry.get? key = none ∧ after = router.register key pool ∧
          ∃ source, Table.find? key router.catalog = some source ∧
            factory router.created source = .ok pool) := by
  unfold Router.fetch Router.consult
  cases registered : router.registry.get? key with
  | some old => simp [eq_comm]
  | none =>
    cases found : Table.find? key router.catalog with
    | none => simp
    | some source =>
      dsimp only
      rw [obtain_eq_ok, registered]
      simp

/-- Why no pool is got: none is registered, and the catalog has no entry for the key or the factory
fails on it. The router is left as it was. -/
theorem fetch_eq_error {router after : Router P} {factory : PoolFactory P} {key : String}
    {reason : GuardError} :
    router.fetch factory key = (.error reason, after) ↔
      after = router ∧ router.registry.get? key = none ∧
        ((Table.find? key router.catalog = none ∧ reason = .dataSourceNotFound key) ∨
          ∃ source, Table.find? key router.catalog = some source ∧
            factory router.created source = .error reason) := by
  unfold Router.fetch Router.consult
  cases registered : router.registry.get? key with
  | some pool => simp
  | none =>
    cases found : Table.find? key router.catalog with
    | none => simp [eq_comm, and_comm]
    | some source =>
      dsimp only
      rw [obtain_eq_error, registered]
      simp

theorem contextFor_eq_ok {task : Task} {store : ContextStore P} {key : String} {context : Nat} :
    contextFor task store key = .ok context ↔
      ¬Text.isBlankText key = true ∧ task.context = some context ∧
        (store.get? context).isSome := by
  unfold contextFor
  by_cases blank : Text.isBlankText key = true
  · simp [blank]
  · rw [if_neg blank, ← Option.filter_eq_some_iff (p := fun c => (store.get? c).isSome)]
    cases task.context.filter fun context => (store.get? context).isSome <;> simp [blank]

theorem contextFor_eq_error {task : Task} {store : ContextStore P} {key : String}
    {reason : GuardError} :
    contextFor task store key = .error reason ↔
      (Text.isBlankText key = true ∧ reason = .invalidConfig "blank tenant datasource key") ∨
        ¬Text.isBlankText key = true ∧ task.current store = none ∧ reason = .noActiveContext := by
  have none_iff : (task.context.filter fun context => (store.get? context).isSome) = none ↔
      task.current store = none := by
    unfold Task.current
    cases task.context <;> simp [Option.filter_some]
  unfold contextFor
  by_cases blank : Text.isBlankText key = true
  · simp [blank, eq_comm]
  · rw [if_neg blank, ← none_iff]
    cases task.context.filter fun context => (store.get? context).isSome <;> simp [blank, eq_comm]

theorem select_eq (router : Router P) (factory : PoolFactory P) {task : Task}
    {store : ContextStore P} {context : Nat} {key : String}
    (admitted : contextFor task store key = .ok context) :
    router.select factory task store key =
      match router.fetch factory key with
      | (.error reason, after) => (.error reason, after, store)
      | (.ok pool, after) => ((store.select context key pool).1, after,
          (store.select context key pool).2) := by
  rcases fetched : router.fetch factory key with ⟨reason | pool, after⟩ <;>
    simp only [Router.select, admitted, fetched]

theorem select_eq_ok {router after : Router P} {factory : PoolFactory P} {task : Task}
    {store contexts : ContextStore P} {key : String} {ticket : Ticket} :
    router.select factory task store key = (.ok ticket, after, contexts) ↔
      ¬Text.isBlankText key = true ∧ ∃ context pool, task.context = some context ∧
        router.fetch factory key = (.ok pool, after) ∧
        store.push context key (some (.own pool)) = some (ticket, contexts) := by
  constructor
  · intro selected
    unfold Router.select at selected
    split at selected
    · cases selected
    · next context admitted =>
      obtain ⟨visible, own, -⟩ := contextFor_eq_ok.1 admitted
      split at selected
      · cases selected
      · next pool router fetched =>
        obtain ⟨answered, rest⟩ := Prod.mk.inj selected
        obtain ⟨rfl, rfl⟩ := Prod.mk.inj rest
        exact ⟨visible, context, pool, own, fetched,
          ContextStore.select_eq_ok.1 (Prod.ext answered rfl)⟩
  · rintro ⟨visible, context, pool, own, fetched, pushed⟩
    have live := (ContextStore.push_spec pushed).2.2.2.1
    have selected := ContextStore.select_eq_ok.2 pushed
    rw [select_eq router factory (contextFor_eq_ok.2 ⟨visible, own, live⟩), fetched]
    dsimp only
    rw [selected]

/-- A selection that fails leaves nothing behind: the last step, which is the only one to follow a
change of the router, does not fail. -/
theorem select_error {router after : Router P} {factory : PoolFactory P} {task : Task}
    {store contexts : ContextStore P} {key : String} {reason : GuardError}
    (refused : router.select factory task store key = (.error reason, after, contexts)) :
    after = router ∧ contexts = store := by
  unfold Router.select at refused
  split at refused
  · cases refused
    exact ⟨rfl, rfl⟩
  · next context admitted =>
    split at refused
    · next failure router fetched =>
      cases refused
      exact ⟨(fetch_eq_error.1 fetched).1, rfl⟩
    · next pool router fetched =>
      have live := (contextFor_eq_ok.1 admitted).2.2
      obtain ⟨answered, -⟩ := Prod.mk.inj refused
      have ended := (ContextStore.select_eq_error.1 (Prod.ext answered rfl)).1
      rw [ended] at live
      cases live

theorem currentPool_selected (router : Router P) {ctx : Option (RequestContext P)}
    {top : Selection P} (selected : ctx.bind RequestContext.current = some top) :
    router.currentPool ctx = top.ownPool?.or (router.registry.get? top.key) := by
  unfold currentPool
  rw [selected]

theorem currentPool_unselected (router : Router P) {ctx : Option (RequestContext P)}
    (nothing : ctx.bind RequestContext.current = none) :
    router.currentPool ctx = router.defaultPool := by
  unfold currentPool
  rw [nothing]

end Router

end RowGuard
