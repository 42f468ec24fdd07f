import RowGuard.DataSource.Router
import RowGuard.Statement
/-!
Programs of tasks: what guarded work does, step by step. Steps with a body run it in surroundings
of their own or with a selection of their own, and go on after it whether it failed or not.
-/
namespace RowGuard.Script

inductive ScopeKind where
  | awaited
  | blocking
  /-- The work breaks off when it is through. -/
  | panicking
  deriving DecidableEq, Repr

inductive Handover where
  | captured
  | nothing
  /-- The surroundings as they are, on a thread that does nothing else. -/
  | thread
  deriving DecidableEq, Repr

/-- One step of a program. Tickets, guards and deferred bodies have names. -/
inductive Step (P : Type) where
  | observe
  /-- Runs a body in a context for a caller. -/
  | scope (kind : ScopeKind) (caller : Caller) (body : List (Step P))
  /-- Runs a body with the tenant line suspended. -/
  | suspend (body : List (Step P))
  /-- Runs a body in a new task and waits for it. -/
  | spawn (handover : Handover) (body : List (Step P))
  /-- Keeps a body, with what it captures now, for a later step. -/
  | defer (name : String) (body : List (Step P))
  /-- Runs a kept body, which is then kept no more. -/
  | runDeferred (name : String)
  | push (name key : String)
  /-- Pushes a key together with a pool. -/
  | select (name key : String) (pool : PoolHandle P)
  | pop
  /-- Withdraws what a push pushed. -/
  | release (name : String)
  /-- Selects a tenant's pool until the guard of that name is dropped. -/
  | change (name key : String)
  | dropGuard (name : String)
  /-- Runs a body with a tenant's pool selected. -/
  | route (key : String) (body : List (Step P))
  /-- Routes a body and abandons it before it can answer. -/
  | cancel (key : String) (body : List (Step P))
  | remove (key : String)
  | contains (key : String)
  | pool (key : String)
  | registered
  | provide (key : String) (source : DataSource)
  | unprovide (key : String)
  | intercept (statement : Statement)
  /-- Ends the body it stands in. -/
  | fail (message : String)
  /-- A step nobody can carry out, since its word is unknown or its contents are no values. -/
  | invalid (word : String) (known : Bool)
  deriving Inhabited

namespace Step

variable {P : Type}

def word : Step P → String
  | observe => "observe"
  | scope .awaited _ _ => "scope"
  | scope .blocking _ _ => "sync_scope"
  | scope .panicking _ _ => "sync_scope"
  | suspend _ => "suspend"
  | spawn .captured _ => "spawn"
  | spawn .nothing _ => "spawn_plain"
  | spawn .thread _ => "spawn_blocking"
  | defer _ _ => "defer"
  | runDeferred _ => "run_deferred"
  | push _ _ => "push"
  | select _ _ _ => "select"
  | pop => "pop"
  | release _ => "release"
  | change _ _ => "change"
  | dropGuard _ => "drop_guard"
  | route _ _ => "route"
  | cancel _ _ => "cancel"
  | remove _ => "remove"
  | contains _ => "contains"
  | pool _ => "pool"
  | registered => "registered"
  | provide _ _ => "provide"
  | unprovide _ => "unprovide"
  | intercept _ => "intercept"
  | fail _ => "fail"
  | invalid word _ => word

mutual

def size : Step P → Nat
  | scope _ _ body => sizes body + 1
  | suspend body => sizes body + 1
  | spawn _ body => sizes body + 1
  | defer _ body => sizes body + 1
  | route _ body => sizes body + 1
  | cancel _ body => sizes body + 1
  | _ => 1

def sizes : List (Step P) → Nat
  | [] => 0
  | step :: rest => size step + sizes rest

end

end Step

end RowGuard.Script
