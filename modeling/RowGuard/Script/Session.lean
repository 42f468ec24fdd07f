import RowGuard.Script.Step
/-!
The state programs run in, and what they answer. A session holds the live contexts, one router and
whatever the steps have named; its log has one entry for every step that is through.
-/
namespace RowGuard.Script

inductive Outcome where
  | ok
  | failed (message : String)
  /-- The allowance of steps was used up. -/
  | unfinished
  deriving DecidableEq, Repr

structure Observation (P : Type) where
  caller : Option Caller
  suspended : Bool
  depth : Nat
  selected : Option String
  pool : Option P

inductive Reply (P : Type) where
  | done
  | flag (answer : Bool)
  | key (selected : String)
  | keys (selected : List String)
  | pool (found : P)
  | view (seen : Observation P)
  | intercepted (statement : Statement)
  | outcome (how : Outcome)
  | panicked
  | cancelled
  | absent
  | refused (reason : GuardError)
  | invalid (known : Bool)

/-- A step that is through: its word, its answer, and the keys then selected where it ran, bottom
first. -/
structure Entry (P : Type) where
  word : String
  reply : Reply P
  stack : Option (List String)

structure Deferred (P : Type) where
  captured : Task
  body : List (Step P)

structure Session (P : Type) where
  contexts : ContextStore P := {}
  router : Router P := {}
  tickets : Table Ticket := []
  guards : Table Ticket := []
  deferred : Table (Deferred P) := []
  /-- The latest entry first. -/
  log : List (Entry P) := []

namespace Session

variable {P : Type}

instance : Inhabited (Session P) := ⟨{}⟩

def stack (session : Session P) (task : Task) : Option (List String) :=
  (task.current session.contexts).map RequestContext.keys

def answer (session : Session P) (task : Task) (word : String) (reply : Reply P) : Session P :=
  { session with log := ⟨word, reply, session.stack task⟩ :: session.log }

def observe (session : Session P) (task : Task) : Observation P :=
  let ctx := task.current session.contexts
  { caller := ctx.map (·.caller)
    suspended := task.suspended
    depth := (ctx.map fun c => c.stack.length).getD 0
    selected := (ctx.bind RequestContext.current).map (·.key)
    pool := session.router.currentPool ctx }

def push (session : Session P) (task : Task) (name key : String)
    (pool : Option (PoolHandle P)) : Reply P × Session P :=
  match task.context.bind fun context => session.contexts.push context key pool with
  | none => (.refused .noActiveContext, session)
  | some (ticket, contexts) =>
    (.key key,
      { session with contexts, tickets := Table.insert name ticket session.tickets })

def pop (session : Session P) (task : Task) : Reply P × Session P :=
  match task.context with
  | none => (.done, session)
  | some context =>
    let (key, contexts) := session.contexts.pop context
    ((key.map .key).getD .done, { session with contexts })

def withdraw (session : Session P) (ticket : Ticket) : Bool × Session P :=
  let (released, contexts) := session.contexts.release ticket
  (released, { session with contexts })

/-- Releases the ticket of a name, which stays known. -/
def release (session : Session P) (name : String) : Reply P × Session P :=
  match Table.find? name session.tickets with
  | none => (.done, session)
  | some ticket =>
    let (released, session) := session.withdraw ticket
    (.flag released, session)

def dropGuard (session : Session P) (name : String) : Reply P × Session P :=
  match Table.find? name session.guards with
  | none => (.flag false, session)
  | some ticket =>
    (.flag true,
      { (session.withdraw ticket).2 with guards := Table.erase name session.guards })

def selectTenant (session : Session P) (factory : PoolFactory P) (task : Task) (key : String) :
    Guarded Ticket × Session P :=
  let (answer, router, contexts) := session.router.select factory task session.contexts key
  (answer, { session with router, contexts })

/-- Selects a tenant's pool under a guard. A guard that had the name is dropped afterwards. -/
def change (session : Session P) (factory : PoolFactory P) (task : Task) (name key : String) :
    Reply P × Session P :=
  match session.selectTenant factory task key with
  | (.error reason, session) => (.refused reason, session)
  | (.ok ticket, session) =>
    let session := (session.dropGuard name).2
    (.key key, { session with guards := Table.insert name ticket session.guards })

def remove (session : Session P) (key : String) : Reply P × Session P :=
  let (removed, router) := session.router.remove key
  (.flag removed, { session with router })

def withCatalog (session : Session P) (catalog : DataSource.Catalog) : Session P :=
  { session with router := { session.router with catalog } }

def defer (session : Session P) (task : Task) (name : String) (body : List (Step P)) :
    Session P :=
  let (captured, contexts) := task.capture session.contexts
  { session with contexts, deferred := Table.insert name ⟨captured, body⟩ session.deferred }

def finish (session : Session P) (captured : Task) : Session P :=
  match captured.context with
  | none => session
  | some context => { session with contexts := session.contexts.finish context }

end Session

end RowGuard.Script
