import RowGuard.Caller
import RowGuard.Context.Selection
/-!
Live request contexts. A context holds the identity of its request and a stack of selections,
bottom first. A copy starts with the stack it finds and then goes its own way; a ticket works on
the context that issued it and on no other, and on none once that context has ended.
-/
namespace RowGuard

structure RequestContext (P : Type) where
  caller : Caller
  stack : List (Selection P) := []

namespace RequestContext

variable {P : Type}

def current (ctx : RequestContext P) : Option (Selection P) := ctx.stack.getLast?

def keys (ctx : RequestContext P) : List String := ctx.stack.map (·.key)

end RequestContext

/-- The live contexts under their numbers, and the numbers the next context and the next entry
get. Numbers are never used again. -/
structure ContextStore (P : Type) where
  live : List (Nat × RequestContext P) := []
  nextContext : Nat := 0
  nextEntry : Nat := 0

namespace ContextStore

variable {P : Type}

instance : Inhabited (ContextStore P) := ⟨{}⟩

def get? (store : ContextStore P) (context : Nat) : Option (RequestContext P) :=
  (store.live.find? (·.1 = context)).map Prod.snd

def setStack (store : ContextStore P) (context : Nat) (stack : List (Selection P)) :
    ContextStore P :=
  { store with live := store.live.map fun entry =>
      if entry.1 = context then (entry.1, { entry.2 with stack }) else entry }

def enter (store : ContextStore P) (ctx : RequestContext P) : Nat × ContextStore P :=
  (store.nextContext,
    { store with
      live := (store.nextContext, ctx) :: store.live
      nextContext := store.nextContext + 1 })

def start (store : ContextStore P) (caller : Caller) : Nat × ContextStore P :=
  store.enter { caller }

def finish (store : ContextStore P) (context : Nat) : ContextStore P :=
  { store with live := store.live.filter (·.1 ≠ context) }

def copy (store : ContextStore P) (context : Nat) : Option (Nat × ContextStore P) :=
  (store.get? context).map store.enter

def push (store : ContextStore P) (context : Nat) (key : String)
    (pool : Option (PoolHandle P)) : Option (Ticket × ContextStore P) :=
  (store.get? context).map fun ctx =>
    let selection : Selection P := ⟨store.nextEntry, key, pool⟩
    (⟨store.nextEntry, context, key⟩,
      { store.setStack context (ctx.stack ++ [selection]) with
        nextEntry := store.nextEntry + 1 })

def pop (store : ContextStore P) (context : Nat) : Option String × ContextStore P :=
  match store.get? context with
  | none => (none, store)
  | some ctx =>
    match ctx.current with
    | none => (none, store)
    | some top => (some top.key, store.setStack context ctx.stack.dropLast)

/-- Withdraws the entry of a ticket. Nothing happens where the entry or its context is gone. -/
def release (store : ContextStore P) (ticket : Ticket) : Bool × ContextStore P :=
  match store.get? ticket.context with
  | none => (false, store)
  | some ctx =>
    match Selection.withdraw ticket.entry ctx.stack with
    | none => (false, store)
    | some stack => (true, store.setStack ticket.context stack)

end ContextStore

end RowGuard
