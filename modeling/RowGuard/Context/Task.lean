import RowGuard.Context.Store
/-!
What a task can see of its surroundings: the context installed for it, and whether the tenant line
is suspended. Work that a task hands on carries a copy of what it sees.
-/
namespace RowGuard

structure Task where
  context : Option Nat := none
  suspended : Bool := false
  deriving DecidableEq, Repr

namespace Task

def bare : Task := {}

def inContext (task : Task) (context : Nat) : Task := { task with context := some context }

def withoutLine (task : Task) : Task := { task with suspended := true }

variable {P : Type}

def current (task : Task) (store : ContextStore P) : Option (RequestContext P) :=
  task.context.bind store.get?

/-- What handed-on work sees of its submitter: a copy of the context, and the suspension. -/
def capture (task : Task) (store : ContextStore P) : Task × ContextStore P :=
  match task.context.bind store.copy with
  | some (copied, store) => ({ task with context := some copied }, store)
  | none => ({ task with context := none }, store)

/-- Where captured work runs inside `runner`: a captured context replaces the runner's and brings
a captured suspension with it; work captured without a context sees what the runner sees. -/
def resume (captured runner : Task) : Task :=
  match captured.context with
  | some context => ⟨some context, captured.suspended || runner.suspended⟩
  | none => runner

end Task

end RowGuard
