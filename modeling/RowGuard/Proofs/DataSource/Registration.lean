import RowGuard.Proofs.DataSource.Erasure
/-!
Registration over whole runs. A pool that is registered stays until its key is removed and is what
every change gets meanwhile, so the factory makes pools exactly as often as keys become registered.
A change that succeeds leaves its key registered, and one that fails might as well not have been
tried.
-/
namespace RowGuard.Routing

variable {P : Type} {h start : Routing P} {event : RoutingEvent P} {n : Nat}
  {context : Option Nat} {key : String} {pool : P} {events front since : List (RoutingEvent P)}

/-- Why a change ends without a pool. In neither case the factory has built one. -/
inductive Failure (h : Routing P) (n : Nat) (factory : PoolFactory P) : GuardError → Prop where
  | unknown {context : Nat} {key : String} (asked : h.calls n = some ⟨context, key, .asked⟩)
      (unlisted : Table.find? key h.router.catalog = none) :
      Failure h n factory (.dataSourceNotFound key)
  | failed {context : Nat} {key : String} {source : DataSource} {reason : GuardError}
      (listed : h.calls n = some ⟨context, key, .listed source⟩)
      (absent : h.router.registry.get? key = none)
      (fails : factory h.router.created source = .error reason) : Failure h n factory reason

def keyOf (h : Routing P) : RoutingEvent P → Option String
  | .advance n _ => (h.calls n).map (·.key)
  | _ => none

def made (h : Routing P) (event : RoutingEvent P) (key : String) : Nat :=
  if h.keyOf event = some key then (h.step event).router.created - h.router.created else 0

/-- A change that begins in a run, under a number of its own. -/
structure Begun (start : Routing P) (events front : List (RoutingEvent P)) (n : Nat)
    (context : Option Nat) (key : String) (since : List (RoutingEvent P)) : Prop where
  split : events = front ++ .begin n context key :: since
  free : (start.run front).calls n = none
  once : ∀ context key, .begin n context key ∉ since

theorem Begun.run_eq (begun : Begun start events front n context key since) :
    start.run events = (start.run front).run (.begin n context key :: since) := by
  rw [begun.split, run_append]

theorem Begun.erased (begun : Begun start events front n context key since)
    (regular : start.Regular) {factory : PoolFactory P} {reason : GuardError}
    (failed : ((start.run events).advance n factory).1 = some (.error reason))
    (later : List (RoutingEvent P)) :
    start.run (events ++ .advance n factory :: later) =
      start.run (front ++ since.filter (fun event => !event.isOf n) ++ later) := by
  have whole := begun.run_eq
  have erased := failure_erased (regular.run front) begun.free begun.once (whole ▸ failed)
  rw [run_append, List.append_assoc, run_append, run_append, ← erased, ← whole]
  rfl

end RowGuard.Routing
