import RowGuard.Interceptor
import RowGuard.Script.Session
/-!
Running programs. A body runs step by step until one fails, a failure ends at the step whose body
it stands in, and whatever a step installs or selects for its body is taken back when the body is
through.
-/
namespace RowGuard.Script

structure Setting (P : Type) where
  config : GuardConfig := .standard
  factory : PoolFactory P

variable {P : Type}

abbrev Runner (P : Type) := Task → List (Step P) → Session P → Outcome × Session P

/-- Goes on to the next step as long as steps succeed. -/
def inSequence (perform : Step P → Session P → Outcome × Session P) :
    List (Step P) → Session P → Outcome × Session P
  | [], session => (.ok, session)
  | step :: rest, session =>
    match perform step session with
    | (.ok, session) => inSequence perform rest session
    | (stopped, session) => (stopped, session)

namespace Session

def answered (task : Task) (word : String) : Reply P × Session P → Outcome × Session P
  | (reply, session) => (.ok, session.answer task word reply)

def settled (task : Task) (word : String) (reply : Outcome → Reply P) :
    Outcome × Session P → Outcome × Session P
  | (.unfinished, session) => (.unfinished, session)
  | (outcome, session) => (.ok, session.answer task word (reply outcome))

def inScope (run : Runner P) (task : Task) (caller : Caller) (body : List (Step P))
    (session : Session P) : Outcome × Session P :=
  let (context, contexts) := session.contexts.start caller
  let (outcome, session) := run (task.inContext context) body { session with contexts }
  (outcome, { session with contexts := session.contexts.finish context })

def inNewTask (run : Runner P) (task : Task) (handover : Handover) (body : List (Step P))
    (session : Session P) : Outcome × Session P :=
  match handover with
  | .nothing => run .bare body session
  | .captured =>
    let (captured, contexts) := task.capture session.contexts
    let (outcome, session) := run (captured.resume .bare) body { session with contexts }
    (outcome, session.finish captured)
  | .thread =>
    let (captured, contexts) := task.capture session.contexts
    let (outcome, session) := run captured body { session with contexts }
    (outcome, session.finish captured)

/-- Runs a body with a tenant's pool selected, and withdraws exactly that selection. -/
def inRoute (setting : Setting P) (run : Runner P) (task : Task) (key : String)
    (body : List (Step P)) (session : Session P) : Guarded Outcome × Session P :=
  match session.selectTenant setting.factory task key with
  | (.error reason, session) => (.error reason, session)
  | (.ok ticket, session) =>
    let (outcome, session) := run task body session
    (.ok outcome, (session.withdraw ticket).2)

def runDeferred (run : Runner P) (task : Task) (name : String) (session : Session P) :
    Option (Outcome × Session P) :=
  (Table.find? name session.deferred).map fun work =>
    let (outcome, session) := run (work.captured.resume task) work.body
      { session with deferred := Table.erase name session.deferred }
    (outcome, session.finish work.captured)

end Session

def interceptIn (setting : Setting P) (task : Task) (session : Session P) (s : Statement) :
    Reply P :=
  match task.current session.contexts with
  | none => .refused .noActiveContext
  | some ctx => .intercepted (Interceptor.intercept setting.config task.suspended ctx.caller s)

/-- Carries out one step. Bodies are run by `run`. -/
def perform (setting : Setting P) (run : Runner P) (task : Task) (step : Step P)
    (session : Session P) : Outcome × Session P :=
  let answered := Session.answered task step.word
  let settled := Session.settled task step.word .outcome
  match step with
  | .observe => answered (.view (session.observe task), session)
  | .scope .panicking caller body =>
    Session.settled task step.word (fun _ => .panicked) (session.inScope run task caller body)
  | .scope _ caller body => settled (session.inScope run task caller body)
  | .suspend body => settled (run task.withoutLine body session)
  | .spawn handover body => settled (session.inNewTask run task handover body)
  | .defer name body => answered (.done, session.defer task name body)
  | .runDeferred name =>
    match session.runDeferred run task name with
    | none => answered (.absent, session)
    | some result => settled result
  | .push name key => answered (session.push task name key none)
  | .select name key pool => answered (session.push task name key (some pool))
  | .pop => answered (session.pop task)
  | .release name => answered (session.release name)
  | .change name key => answered (session.change setting.factory task name key)
  | .dropGuard name => answered (session.dropGuard name)
  | .route key body =>
    match session.inRoute setting run task key body with
    | (.error reason, session) => answered (.refused reason, session)
    | (.ok outcome, session) => settled (outcome, session)
  | .cancel key body =>
    match session.inRoute setting run task key body with
    | (.error reason, session) => answered (.refused reason, session)
    | (.ok outcome, session) =>
      Session.settled task step.word (fun _ => .cancelled) (outcome, session)
  | .remove key => answered (session.remove key)
  | .contains key => answered (.flag (session.router.registry.contains key), session)
  | .pool key => answered (((session.router.registry.get? key).map .pool).getD .done, session)
  | .registered => answered (.keys session.router.keys, session)
  | .provide key source =>
    answered (.done, session.withCatalog (Table.insert key source session.router.catalog))
  | .unprovide key =>
    answered (.flag (Table.contains key session.router.catalog),
      session.withCatalog (Table.erase key session.router.catalog))
  | .intercept s => answered (interceptIn setting task session s, session)
  | .fail message => (.failed message, session)
  | .invalid _ known => answered (.invalid known, session)

/-- Runs a body whose steps are nested no deeper than the allowance. -/
def runWithin (setting : Setting P) : Nat → Runner P
  | 0 => fun _ _ session => (.unfinished, session)
  | allowance + 1 => fun task body session =>
    inSequence (perform setting (runWithin setting allowance) task) body session

/-- Runs a program for a task without surroundings. No step is carried out twice, so bodies are
never nested deeper than the program has steps. -/
def run (setting : Setting P) (program : List (Step P)) (session : Session P) :
    Outcome × Session P :=
  runWithin setting (Step.sizes program + 1) .bare program session

end RowGuard.Script
