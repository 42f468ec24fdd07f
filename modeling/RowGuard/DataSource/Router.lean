import RowGuard.Context.Task
import RowGuard.DataSource.Descriptor
import RowGuard.DataSource.Registry
import RowGuard.Text.Split
/-!
Routing to the pools of tenants. The pool of a tenant is created at its first use and kept; routed
work finds it on top of its context's selections, whatever happens to the registry meanwhile.

A change goes through steps between which other work may run: the key is looked up, the provider is
asked what the pool is made of, the pool is registered unless there is one by now, and the pool is
selected. A step that fails ends the change and leaves everything as the steps before it made it.
-/
namespace RowGuard

/-- Creates pools. The number says how many pools were created before. -/
abbrev PoolFactory (P : Type) := Nat → DataSource → Guarded P

/-- Calls the factory. What is counted are the calls that were answered with a pool. -/
def PoolFactory.make {P : Type} (factory : PoolFactory P) (source : DataSource) :
    StateM Nat (Guarded P) :=
  fun created =>
    match factory created source with
    | .error reason => (.error reason, created)
    | .ok pool => (.ok pool, created + 1)

def ContextStore.select {P : Type} (store : ContextStore P) (context : Nat) (key : String)
    (pool : P) : Guarded Ticket × ContextStore P :=
  match store.push context key (some (.own pool)) with
  | none => (.error .noActiveContext, store)
  | some (ticket, store) => (.ok ticket, store)

structure Router (P : Type) where
  catalog : DataSource.Catalog := []
  registry : Registry P := {}
  /-- Serves work with nothing selected. -/
  defaultPool : Option P := none
  /-- How many pools the factory has created. -/
  created : Nat := 0

namespace Router

variable {P : Type}

instance : Inhabited (Router P) := ⟨{}⟩

/-- The context to select a key in. A blank key and a task without context are refused before
anything is looked up. -/
def contextFor (task : Task) (store : ContextStore P) (key : String) : Guarded Nat :=
  if Text.isBlankText key then .error (.invalidConfig "blank tenant datasource key")
  else match task.context.filter fun context => (store.get? context).isSome with
    | none => .error .noActiveContext
    | some context => .ok context

def consult (router : Router P) (key : String) : Guarded DataSource :=
  match Table.find? key router.catalog with
  | none => .error (.dataSourceNotFound key)
  | some source => .ok source

/-- The pool of a key: one that was registered meanwhile, else a new one, which is registered. -/
def obtain (router : Router P) (factory : PoolFactory P) (key : String) (source : DataSource) :
    Guarded P × Router P :=
  let ((answer, registry), created) :=
    (router.registry.obtain key (factory.make source)).run router.created
  (answer.map Prod.fst, { router with registry, created })

def fetch (router : Router P) (factory : PoolFactory P) (key : String) : Guarded P × Router P :=
  match router.registry.get? key with
  | some pool => (.ok pool, router)
  | none =>
    match router.consult key with
    | .error reason => (.error reason, router)
    | .ok source => router.obtain factory key source

/-- Selects the pool of a key for a task, with no other work in between. -/
def select (router : Router P) (factory : PoolFactory P) (task : Task) (store : ContextStore P)
    (key : String) : Guarded Ticket × Router P × ContextStore P :=
  match contextFor task store key with
  | .error reason => (.error reason, router, store)
  | .ok context =>
    match router.fetch factory key with
    | (.error reason, router) => (.error reason, router, store)
    | (.ok pool, router) =>
      let (answer, store) := store.select context key pool
      (answer, router, store)

def remove (router : Router P) (key : String) : Bool × Router P :=
  let (removed, registry) := router.registry.remove key
  (removed.isSome, { router with registry })

def keys (router : Router P) : List String := router.registry.keys

def describe (router : Router P) : String :=
  "TenantDataSourceRouter \x7b registered: [" ++
    Text.join ", " (router.keys.map Text.quoted) ++ "], has_default_pool: " ++
    (if router.defaultPool.isSome then "true" else "false") ++ " \x7d"

/-- The pool for work in a context: the one kept with the selection, else the registered pool of
the selected key, and the default pool only where nothing is selected. -/
def currentPool (router : Router P) (ctx : Option (RequestContext P)) : Option P :=
  match ctx.bind RequestContext.current with
  | some selection => selection.ownPool?.or (router.registry.get? selection.key)
  | none => router.defaultPool

end Router

end RowGuard
