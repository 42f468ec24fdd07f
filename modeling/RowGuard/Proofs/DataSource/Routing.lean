import Mathlib.Data.List.Induction
import Mathlib.Logic.Function.Basic
import RowGuard.Proofs.DataSource.Router
/-!
Runs of routed work: whatever is started, copied, selected, taken back, removed and provided, by any
number of tasks and in any order. A change is a call that goes on by steps, and between its steps
anything else may happen, the steps of other changes of its key among it. What one event does to the
router, to the calls and to the stacks is said here once, for all that is proved about runs.
-/
namespace RowGuard

/-- How far a change is: no pool was found and the provider is asked, the provider has answered, or
there is a pool to select. -/
inductive Stage (P : Type) where
  | asked
  | listed (source : DataSource)
  | ready (pool : P)

def Stage.left {P : Type} : Stage P → Nat
  | .asked => 3
  | .listed _ => 2
  | .ready _ => 1

structure Call (P : Type) where
  context : Nat
  key : String
  stage : Stage P

/-- What routed work shares, and the changes that are under way in it. -/
structure Routing (P : Type) where
  router : Router P
  contexts : ContextStore P := {}
  calls : Nat → Option (Call P) := fun _ => none

/-- What can happen to routed work. To route is to change, to do whatever the routed work does, and
to release the ticket of the change; a guard that is dropped releases its ticket. Every step of a
change has a factory of its own, which may fail once and succeed later, and `provide` puts any
catalog in the place of the one before. -/
inductive RoutingEvent (P : Type) where
  | start (caller : Caller)
  | copy (context : Nat)
  /-- Ends a context. A change is work of its context, so those that are under way end with it. -/
  | finish (context : Nat)
  /-- Selects a key without a pool. -/
  | push (context : Nat) (key : String)
  | pop (context : Nat)
  | release (ticket : Ticket)
  /-- Begins a change, for a task in a context or in none. -/
  | begin (call : Nat) (context : Option Nat) (key : String)
  /-- Takes a change one step further. -/
  | advance (call : Nat) (factory : PoolFactory P)
  /-- Drops a change that is under way. -/
  | abandon (call : Nat)
  | remove (key : String)
  | provide (catalog : DataSource.Catalog)

namespace Routing

variable {P : Type}

/-- A task in a context. A context that has ended is no context. -/
def task (h : Routing P) (context : Option Nat) : Task :=
  { context := context.filter fun c => (h.contexts.get? c).isSome }

def selected (h : Routing P) (context : Option Nat) : Option (Selection P) :=
  ((h.task context).current h.contexts).bind RequestContext.current

def currentPool (h : Routing P) (context : Option Nat) : Option P :=
  h.router.currentPool ((h.task context).current h.contexts)

def keep (h : Routing P) (n : Nat) (call : Call P) : Routing P :=
  { h with calls := Function.update h.calls n (some call) }

def drop (h : Routing P) (n : Nat) : Routing P :=
  { h with calls := Function.update h.calls n none }

def begin (h : Routing P) (n : Nat) (context : Option Nat) (key : String) :
    Option (Guarded Ticket) × Routing P :=
  match Router.contextFor { context } h.contexts key with
  | .error reason => (some (.error reason), h)
  | .ok context =>
    (none, h.keep n ⟨context, key, (h.router.registry.get? key).elim .asked .ready⟩)

/-- One step of a change, and its answer where it is the last one: the provider answers, the pool is
registered unless there is one by now, or the pool is selected. -/
def resume (h : Routing P) (n : Nat) (factory : PoolFactory P) :
    Call P → Option (Guarded Ticket) × Routing P
  | ⟨context, key, .asked⟩ =>
    match h.router.consult key with
    | .error reason => (some (.error reason), h)
    | .ok source => (none, h.keep n ⟨context, key, .listed source⟩)
  | ⟨context, key, .listed source⟩ =>
    match h.router.obtain factory key source with
    | (.error reason, router) => (some (.error reason), { h with router })
    | (.ok pool, router) => (none, { h.keep n ⟨context, key, .ready pool⟩ with router })
  | ⟨context, key, .ready pool⟩ =>
    let (answer, contexts) := h.contexts.select context key pool
    (some answer, { h with contexts })

def advance (h : Routing P) (n : Nat) (factory : PoolFactory P) :
    Option (Guarded Ticket) × Routing P :=
  match h.calls n with
  | none => (none, h)
  | some call => (h.drop n).resume n factory call

def step (h : Routing P) : RoutingEvent P → Routing P
  | .start caller => { h with contexts := (h.contexts.start caller).2 }
  | .copy context =>
    { h with contexts := ((h.contexts.copy context).map Prod.snd).getD h.contexts }
  | .finish context =>
    { h with
      contexts := h.contexts.finish context
      calls := fun n => (h.calls n).filter (·.context ≠ context) }
  | .push context key =>
    { h with contexts := ((h.contexts.push context key none).map Prod.snd).getD h.contexts }
  | .pop context => { h with contexts := (h.contexts.pop context).2 }
  | .release ticket => { h with contexts := (h.contexts.release ticket).2 }
  | .begin n context key => (h.begin n context key).2
  | .advance n factory => (h.advance n factory).2
  | .abandon n => h.drop n
  | .remove key => { h with router := (h.router.remove key).2 }
  | .provide catalog => { h with router := { h.router with catalog } }

def run (h : Routing P) (events : List (RoutingEvent P)) : Routing P := events.foldl step h

/-- The events of a run, each with the state it met. -/
def moments (h : Routing P) : List (RoutingEvent P) → List (Routing P × RoutingEvent P)
  | [] => []
  | event :: rest => (h, event) :: (h.step event).moments rest

def initial (catalog : DataSource.Catalog) (defaultPool : Option P) : Routing P :=
  { router := { catalog, defaultPool } }

/-- Whether an event is the provider's answer to a change of a key. -/
def Answers (h : Routing P) (event : RoutingEvent P) (key : String) (source : DataSource) : Prop :=
  ∃ n factory context, event = .advance n factory ∧ h.calls n = some ⟨context, key, .asked⟩ ∧
    Table.find? key h.router.catalog = some source

/-- Whether an event has the factory build a pool for a key out of what the provider answered. -/
def Builds (h : Routing P) (event : RoutingEvent P) (key : String) (source : DataSource)
    (pool : P) : Prop :=
  ∃ n factory context, event = .advance n factory ∧
    h.calls n = some ⟨context, key, .listed source⟩ ∧
    factory h.router.created source = .ok pool ∧
    (h.step event).router.created = h.router.created + 1

/-- Whether an event completes a change that resolved to a pool, and puts an entry for the pool on a
stack. -/
def Selects (h : Routing P) (event : RoutingEvent P) (entry : Nat) (key : String) (pool : P) :
    Prop :=
  ∃ n factory context ticket, event = .advance n factory ∧
    h.calls n = some ⟨context, key, .ready pool⟩ ∧
    (h.advance n factory).1 = some (.ok ticket) ∧ ticket.entry = entry

variable {h after : Routing P} {event : RoutingEvent P} {n : Nat} {key : String} {pool : P}

theorem run_append (h : Routing P) (front back : List (RoutingEvent P)) :
    h.run (front ++ back) = (h.run front).run back :=
  List.foldl_append

theorem run_concat (h : Routing P) (events : List (RoutingEvent P)) (event : RoutingEvent P) :
    h.run (events ++ [event]) = (h.run events).step event :=
  run_append h events [event]

theorem moments_append (h : Routing P) (front back : List (RoutingEvent P)) :
    h.moments (front ++ back) = h.moments front ++ (h.run front).moments back := by
  induction front generalizing h with
  | nil => rfl
  | cons event rest ih => exact congrArg ((h, event) :: ·) (ih (h.step event))

theorem run_induction {holds : List (RoutingEvent P) → Routing P → Prop} (first : holds [] h)
    (next : ∀ events event, holds events (h.run events) →
      holds (events ++ [event]) ((h.run events).step event)) (events : List (RoutingEvent P)) :
    holds events (h.run events) := by
  induction events using List.reverseRecOn with
  | nil => exact first
  | append_singleton events event ih =>
    rw [run_concat]
    exact next events event ih

theorem current_task (h : Routing P) (context : Option Nat) :
    (h.task context).current h.contexts = context.bind h.contexts.get? := by
  unfold Task.current task
  cases context with
  | none => rfl
  | some c =>
    dsimp only
    rw [Option.filter_some]
    split
    · rfl
    · next ended => exact (Option.not_isSome_iff_eq_none.1 ended).symm

/-! ## The steps of a change -/

theorem calls_keep (h : Routing P) (n m : Nat) (call : Call P) :
    (h.keep n call).calls m = if m = n then some call else h.calls m :=
  Function.update_apply h.calls n (some call) m

theorem calls_drop (h : Routing P) (n m : Nat) :
    (h.drop n).calls m = if m = n then none else h.calls m :=
  Function.update_apply h.calls n none m

@[simp] theorem drop_keep (h : Routing P) (n : Nat) (call : Call P) :
    (h.keep n call).drop n = h.drop n := by
  simp only [drop, keep, Function.update_idem]

@[simp] theorem keep_drop (h : Routing P) (n : Nat) (call : Call P) :
    (h.drop n).keep n call = h.keep n call := by
  simp only [drop, keep, Function.update_idem]

@[simp] theorem drop_drop (h : Routing P) (n : Nat) : (h.drop n).drop n = h.drop n := by
  simp only [drop, Function.update_idem]

theorem drop_eq_self (free : h.calls n = none) : h.drop n = h :=
  congrArg (Routing.mk h.router h.contexts) (Function.update_eq_self_iff.2 free.symm)

theorem begin_admitted {context : Option Nat} {c : Nat}
    (admitted : Router.contextFor { context } h.contexts key = .ok c) :
    h.begin n context key =
      (none, h.keep n ⟨c, key, (h.router.registry.get? key).elim .asked .ready⟩) := by
  rw [begin, admitted]

theorem begin_refused {context : Option Nat} {reason : GuardError}
    (refused : Router.contextFor { context } h.contexts key = .error reason) :
    h.begin n context key = (some (.error reason), h) := by
  rw [begin, refused]

inductive Progress (h : Routing P) (n : Nat) (factory : PoolFactory P) :
    Option (Guarded Ticket) × Routing P → Prop
  | absent (free : h.calls n = none) : Progress h n factory (none, h)
  | unlisted {context : Nat} {key : String} (asked : h.calls n = some ⟨context, key, .asked⟩)
      (missing : Table.find? key h.router.catalog = none) :
      Progress h n factory (some (.error (.dataSourceNotFound key)), h.drop n)
  | listed {context : Nat} {key : String} {source : DataSource}
      (asked : h.calls n = some ⟨context, key, .asked⟩)
      (found : Table.find? key h.router.catalog = some source) :
      Progress h n factory (none, h.keep n ⟨context, key, .listed source⟩)
  | reused {context : Nat} {key : String} {source : DataSource} {pool : P}
      (listed : h.calls n = some ⟨context, key, .listed source⟩)
      (registered : h.router.registry.get? key = some pool) :
      Progress h n factory (none, h.keep n ⟨context, key, .ready pool⟩)
  | failed {context : Nat} {key : String} {source : DataSource} {reason : GuardError}
      (listed : h.calls n = some ⟨context, key, .listed source⟩)
      (absent : h.router.registry.get? key = none)
      (fails : factory h.router.created source = .error reason) :
      Progress h n factory (some (.error reason), h.drop n)
  | built {context : Nat} {key : String} {source : DataSource} {pool : P}
      (listed : h.calls n = some ⟨context, key, .listed source⟩)
      (absent : h.router.registry.get? key = none)
      (made : factory h.router.created source = .ok pool) :
      Progress h n factory (none,
        { h.keep n ⟨context, key, .ready pool⟩ with router := h.router.register key pool })
  | selected {context : Nat} {key : String} {pool : P} {ticket : Ticket}
      {contexts : ContextStore P} (ready : h.calls n = some ⟨context, key, .ready pool⟩)
      (pushed : h.contexts.push context key (some (.own pool)) = some (ticket, contexts)) :
      Progress h n factory (some (.ok ticket), { h.drop n with contexts })
  | ended {context : Nat} {key : String} {pool : P}
      (ready : h.calls n = some ⟨context, key, .ready pool⟩)
      (gone : h.contexts.get? context = none) :
      Progress h n factory (some (.error .noActiveContext), h.drop n)

theorem progress (h : Routing P) (n : Nat) (factory : PoolFactory P) :
    h.Progress n factory (h.advance n factory) := by
  unfold advance
  cases under : h.calls n with
  | none => exact .absent under
  | some call =>
    obtain ⟨context, key, stage⟩ := call
    cases stage with
    | asked =>
      dsimp only [resume, drop, Router.consult]
      cases found : Table.find? key h.router.catalog with
      | none => exact .unlisted under found
      | some source =>
        dsimp only
        exact keep_drop h n _ ▸ .listed under found
    | listed source =>
      dsimp only [resume]
      split
      · next reason router obtained =>
        obtain ⟨rfl, absent, fails⟩ := Router.obtain_eq_error.1 obtained
        exact .failed under absent fails
      · next pool router obtained =>
        rw [keep_drop]
        rcases Router.obtain_eq_ok.1 obtained with ⟨registered, rfl⟩ | ⟨absent, rfl, made⟩
        · exact .reused under registered
        · exact .built under absent made
    | ready pool =>
      dsimp only [resume]
      rcases selected : (h.drop n).contexts.select context key pool with ⟨answer, contexts⟩
      cases answer with
      | error reason =>
        obtain ⟨gone, rfl, rfl⟩ := ContextStore.select_eq_error.1 selected
        exact .ended under gone
      | ok ticket => exact .selected under (ContextStore.select_eq_ok.1 selected)

theorem advance_free (free : h.calls n = none) (factory : PoolFactory P) :
    h.advance n factory = (none, h) := by
  rw [advance, free]

theorem advance_keep (free : h.calls n = none) (call : Call P) (factory : PoolFactory P) :
    (h.keep n call).advance n factory = h.resume n factory call := by
  have under : (h.keep n call).calls n = some call := (calls_keep h n n call).trans (if_pos rfl)
  rw [advance, under]
  dsimp only
  rw [drop_keep, drop_eq_self free]

theorem select_by_steps (free : h.calls n = none) (context : Option Nat) (key : String)
    (factory : PoolFactory P) :
    h.run [.begin n context key, .advance n factory, .advance n factory, .advance n factory] =
      { h with
        router := (h.router.select factory { context } h.contexts key).2.1
        contexts := (h.router.select factory { context } h.contexts key).2.2 } := by
  have steps : h.run [.begin n context key, .advance n factory, .advance n factory,
      .advance n factory] = ((((h.begin n context key).2.advance n factory).2.advance n
        factory).2.advance n factory).2 := rfl
  rw [steps]
  cases admitted : Router.contextFor { context } h.contexts key with
  | error reason =>
    rw [begin_refused admitted, advance_free free, advance_free free, advance_free free,
      Router.select, admitted]
  | ok c =>
    rw [begin_admitted admitted, Router.select_eq h.router factory admitted, Router.fetch]
    cases registered : h.router.registry.get? key with
    | some pool =>
      have free : Routing.calls { h with contexts := (h.contexts.select c key pool).2 } n = none :=
        free
      dsimp only [Option.elim_some]
      rw [advance_keep ‹_›]
      dsimp only [resume]
      rw [advance_free free, advance_free free]
    | none =>
      dsimp only [Option.elim_none]
      rw [advance_keep free, resume]
      cases h.router.consult key with
      | error reason =>
        dsimp only
        rw [advance_free free, advance_free free]
      | ok source =>
        dsimp only
        rw [advance_keep free, resume]
        rcases h.router.obtain factory key source with ⟨answer, router⟩
        have free : Routing.calls { h with router } n = none := free
        cases answer with
        | error reason =>
          dsimp only
          rw [advance_free free]
        | ok pool =>
          exact congrArg Prod.snd (advance_keep free ⟨c, key, .ready pool⟩ factory)

/-! ## What an event does -/

theorem begin_router (h : Routing P) (n : Nat) (context : Option Nat) (key : String) :
    (h.begin n context key).2.router = h.router ∧
      (h.begin n context key).2.contexts = h.contexts := by
  cases admitted : Router.contextFor { context } h.contexts key with
  | error reason => exact begin_refused (n := n) admitted ▸ ⟨rfl, rfl⟩
  | ok c => exact begin_admitted (n := n) admitted ▸ ⟨rfl, rfl⟩

theorem advance_other (h : Routing P) {n m : Nat} (factory : PoolFactory P) (other : n ≠ m) :
    (h.advance m factory).2.calls n = h.calls n := by
  have kept (call : Option (Call P)) : Function.update h.calls m call n = h.calls n :=
    Function.update_of_ne other call h.calls
  generalize result : h.advance m factory = result
  cases result ▸ h.progress m factory with
  | absent => rfl
  | _ => exact kept _

/-- Only the step that registers a new pool changes the router. -/
theorem advance_router (h : Routing P) (n : Nat) (factory : PoolFactory P) :
    (h.advance n factory).2.router = h.router ∨
      ∃ context key source pool, h.calls n = some ⟨context, key, .listed source⟩ ∧
        h.router.registry.get? key = none ∧ factory h.router.created source = .ok pool ∧
        (h.advance n factory).2.router = h.router.register key pool := by
  generalize result : h.advance n factory = result
  cases result ▸ h.progress n factory with
  | @built context key source pool listed absent made =>
    exact .inr ⟨context, key, source, pool, listed, absent, made, rfl⟩
  | _ => exact .inl rfl

/-- What an event does to the router: it removes a key, it registers a pool that it built, or it
leaves the pools as they are. -/
theorem router_step (h : Routing P) (event : RoutingEvent P) :
    (h.step event).router.defaultPool = h.router.defaultPool ∧
      ((∃ key, event = .remove key ∧ (h.step event).router = (h.router.remove key).2) ∨
        (∃ key source pool, h.Builds event key source pool ∧ h.router.registry.get? key = none ∧
          (h.step event).router = h.router.register key pool) ∨
        ((∀ key, event ≠ .remove key) ∧ (h.step event).router.registry = h.router.registry ∧
          (h.step event).router.created = h.router.created)) := by
  cases event with
  | begin n context key =>
    rw [step, (begin_router h n context key).1]
    exact ⟨rfl, .inr (.inr ⟨fun _ same => (nomatch same), rfl, rfl⟩)⟩
  | advance n factory =>
    rcases h.advance_router n factory with same | ⟨context, key, source, pool, listed, absent, made,
      after⟩
    · rw [step, same]
      exact ⟨rfl, .inr (.inr ⟨fun _ same => (nomatch same), rfl, rfl⟩)⟩
    · have grown : (h.step (.advance n factory)).router.created = h.router.created + 1 :=
        congrArg Router.created after
      have builds : h.Builds (.advance n factory) key source pool :=
        ⟨n, factory, context, rfl, listed, made, grown⟩
      refine ⟨?_, .inr (.inl ⟨key, source, pool, builds, absent, after⟩)⟩
      rw [step, after]
      rfl
  | remove key => exact ⟨rfl, .inl ⟨key, rfl, rfl⟩⟩
  | _ => exact ⟨rfl, .inr (.inr ⟨fun _ same => (nomatch same), rfl, rfl⟩)⟩

theorem ascending_step (ascending : h.router.registry.pools.Ascending) (event : RoutingEvent P) :
    (h.step event).router.registry.pools.Ascending := by
  obtain ⟨-, ⟨key, -, after⟩ | ⟨key, source, pool, -, -, after⟩ | ⟨-, same, -⟩⟩ :=
    router_step h event
  · rw [after]
    exact Registry.ascending_remove ascending key
  · rw [after]
    exact ascending.insert key pool
  · rw [same]
    exact ascending

/-- What an event makes of the pool of one key: it removes it, it builds and registers it where
there was none, or it leaves it as it is. -/
theorem get?_step (ascending : h.router.registry.pools.Ascending) (event : RoutingEvent P)
    (key : String) :
    (event = .remove key ∧ (h.step event).router.registry.get? key = none) ∨
      (h.router.registry.get? key = none ∧ ∃ source pool, h.Builds event key source pool ∧
          (h.step event).router.registry.get? key = some pool) ∨
      ((∀ source pool, ¬h.Builds event key source pool) ∧ event ≠ .remove key ∧
        (h.step event).router.registry.get? key = h.router.registry.get? key) := by
  obtain ⟨-, ⟨own, rfl, after⟩ | ⟨own, source, pool, builds, absent, after⟩ |
    ⟨apart, same, created⟩⟩ := router_step h event
  · have gets := Registry.get?_remove ascending own key
    rw [after]
    by_cases same : key = own
    · exact .inl ⟨by rw [same], gets.trans (if_pos same)⟩
    · refine .inr (.inr ⟨?_, ?_, gets.trans (if_neg same)⟩)
      · rintro source pool ⟨_, _, _, ⟨⟩, -⟩
      · rintro ⟨⟩
        exact same rfl
  · have gets := Registry.get?_insert h.router.registry own key pool
    rw [after]
    by_cases same : key = own
    · subst same
      exact .inr (.inl ⟨absent, source, pool, builds, gets.trans (if_pos rfl)⟩)
    · obtain ⟨n, factory, context, rfl, under, -⟩ := builds
      refine .inr (.inr ⟨?_, nofun, gets.trans (if_neg same)⟩)
      rintro other fresh ⟨_, _, _, ⟨⟩, under', -⟩
      cases under.symm.trans under'
      exact same rfl
  · refine .inr (.inr ⟨?_, apart key, by rw [same]⟩)
    rintro source pool ⟨_, _, _, -, -, -, grown⟩
    omega

theorem registered_step (ascending : h.router.registry.pools.Ascending)
    (registered : (h.step event).router.registry.get? key = some pool) :
    h.router.registry.get? key = some pool ∨ ∃ source, h.Builds event key source pool := by
  rcases get?_step ascending event key with ⟨-, gone⟩ | ⟨-, source, fresh, builds, found⟩ |
    ⟨-, -, same⟩
  · cases gone.symm.trans registered
  · cases found.symm.trans registered
    exact .inr ⟨source, builds⟩
  · exact .inl (same.symm.trans registered)

theorem advance_contexts (h : Routing P) (n : Nat) (factory : PoolFactory P) :
    ((∀ ticket, (h.advance n factory).1 ≠ some (.ok ticket)) ∧
        (h.advance n factory).2.contexts = h.contexts) ∨
      ∃ context key pool ticket, h.calls n = some ⟨context, key, .ready pool⟩ ∧
        (h.advance n factory).1 = some (.ok ticket) ∧
        h.contexts.push context key (some (.own pool)) =
          some (ticket, (h.advance n factory).2.contexts) := by
  generalize result : h.advance n factory = result
  cases result ▸ h.progress n factory with
  | @selected context key pool ticket contexts ready pushed =>
    exact .inr ⟨context, key, pool, ticket, ready, rfl, pushed⟩
  | _ => exact .inl ⟨by simp, rfl⟩

/-- Which entries an event leaves on stacks: those that stood there before, one that it pushed
without a pool, and one that a change pushed with the pool it resolved to. -/
theorem carries_step {s : Selection P} (carries : (h.step event).contexts.Carries s) :
    h.contexts.Carries s ∨ s.entry = h.contexts.nextEntry ∧
      ((∃ context, event = .push context s.key ∧ s.pool = none) ∨
        ∃ pool, s.pool = some (.own pool) ∧ h.Selects event s.entry s.key pool) := by
  cases event with
  | start caller => exact .inl (ContextStore.carries_of_enter (.inl rfl) carries)
  | copy context =>
    cases live : h.contexts.get? context with
    | none =>
      rw [step, ContextStore.copy, live] at carries
      exact .inl carries
    | some ctx =>
      rw [step, ContextStore.copy_eq live] at carries
      exact .inl (ContextStore.carries_of_enter (.inr ⟨context, live⟩) carries)
  | finish context => exact .inl ((h.contexts.shrinks_finish context).carries carries)
  | push context key =>
    cases pushed : h.contexts.push context key none with
    | none =>
      rw [step, pushed] at carries
      exact .inl carries
    | some issue =>
      rw [step, pushed] at carries
      rcases ContextStore.carries_of_push pushed carries with older | rfl
      · exact .inl older
      · exact .inr ⟨rfl, .inl ⟨context, rfl, rfl⟩⟩
  | pop context => exact .inl ((h.contexts.shrinks_pop context).carries carries)
  | release ticket => exact .inl ((h.contexts.shrinks_release ticket).carries carries)
  | begin n context key =>
    rw [step, (begin_router h n context key).2] at carries
    exact .inl carries
  | advance n factory =>
    rcases h.advance_contexts n factory with ⟨-, same⟩ |
      ⟨context, key, pool, ticket, ready, answered, pushed⟩
    · rw [step, same] at carries
      exact .inl carries
    · rcases ContextStore.carries_of_push pushed carries with older | rfl
      · exact .inl older
      · have issued := congrArg Ticket.entry (ContextStore.push_spec pushed).1
        exact .inr ⟨rfl, .inr ⟨pool, rfl, n, factory, context, ticket, rfl, ready, answered,
          issued⟩⟩
  | abandon n => exact .inl carries
  | remove key => exact .inl carries
  | provide catalog => exact .inl carries

theorem sound_step (sound : h.contexts.Sound) (event : RoutingEvent P) :
    (h.step event).contexts.Sound ∧
      h.contexts.nextEntry ≤ (h.step event).contexts.nextEntry := by
  cases event with
  | start caller => exact ⟨sound.begin (.inl rfl), Nat.le_refl _⟩
  | copy context =>
    rw [step]
    cases live : h.contexts.get? context with
    | none =>
      rw [ContextStore.copy, live]
      exact ⟨sound, Nat.le_refl _⟩
    | some ctx =>
      rw [ContextStore.copy_eq live]
      exact ⟨sound.begin (.inr ⟨context, live⟩), Nat.le_refl _⟩
  | finish context => exact ⟨sound.finish context, Nat.le_refl _⟩
  | push context key =>
    rw [step]
    cases pushed : h.contexts.push context key none with
    | none => exact ⟨sound, Nat.le_refl _⟩
    | some issue => exact ⟨sound.push pushed, (ContextStore.push_spec pushed).2.2.1 ▸ Nat.le_succ _⟩
  | pop context =>
    exact ⟨sound.pop context, Nat.le_of_eq (ContextStore.next_pop h.contexts context).2.symm⟩
  | release ticket =>
    exact ⟨sound.release ticket,
      Nat.le_of_eq (ContextStore.next_release h.contexts ticket).2.symm⟩
  | begin n context key =>
    rw [step, (begin_router h n context key).2]
    exact ⟨sound, Nat.le_refl _⟩
  | advance n factory =>
    rcases h.advance_contexts n factory with ⟨-, same⟩ | ⟨context, key, pool, ticket, -, -, pushed⟩
    · rw [step, same]
      exact ⟨sound, Nat.le_refl _⟩
    · exact ⟨sound.push pushed, (ContextStore.push_spec pushed).2.2.1 ▸ Nat.le_succ _⟩
  | abandon n => exact ⟨sound, Nat.le_refl _⟩
  | remove key => exact ⟨sound, Nat.le_refl _⟩
  | provide catalog => exact ⟨sound, Nat.le_refl _⟩

theorem lives_step {c : Nat} (live : (h.contexts.get? c).isSome) (other : event ≠ .finish c) :
    ((h.step event).contexts.get? c).isSome := by
  have changed (context : Nat) (change : RequestContext P → RequestContext P) :
      (if c = context then (h.contexts.get? c).map change else h.contexts.get? c).isSome := by
    split
    · rwa [Option.isSome_map]
    · exact live
  have entered (ctx : RequestContext P) : ((h.contexts.enter ctx).2.get? c).isSome := by
    rw [ContextStore.get?_enter]
    split
    · rfl
    · exact live
  cases event with
  | start caller => exact entered { caller }
  | copy context =>
    rw [step]
    cases there : h.contexts.get? context with
    | none =>
      rw [ContextStore.copy, there]
      exact live
    | some ctx =>
      rw [ContextStore.copy_eq there]
      exact entered ctx
  | finish context =>
    have apart : c ≠ context := fun same => other (by rw [same])
    rw [step, ContextStore.get?_finish, if_neg apart]
    exact live
  | push context key =>
    rw [step]
    cases pushed : h.contexts.push context key none with
    | none => exact live
    | some issue =>
      obtain ⟨-, -, -, -, gets⟩ := ContextStore.push_spec pushed
      exact (gets c).symm ▸ changed context _
  | pop context => exact (ContextStore.get?_pop h.contexts context c).symm ▸ changed context _
  | release ticket => exact (ContextStore.get?_release h.contexts ticket c).symm ▸ changed _ _
  | begin n context key =>
    rw [step, (begin_router h n context key).2]
    exact live
  | advance n factory =>
    rcases h.advance_contexts n factory with ⟨-, same⟩ | ⟨context, key, pool, ticket, -, -, pushed⟩
    · rw [step, same]
      exact live
    · obtain ⟨-, -, -, -, gets⟩ := ContextStore.push_spec pushed
      exact (gets c).symm ▸ changed context _
  | abandon n => exact live
  | remove key => exact live
  | provide catalog => exact live

inductive Learns (h : Routing P) (event : RoutingEvent P) (key : String) :
    Stage P → Stage P → Prop
  | listed {source : DataSource} (found : Table.find? key h.router.catalog = some source) :
      Learns h event key .asked (.listed source)
  | reused {source : DataSource} {pool : P} (registered : h.router.registry.get? key = some pool) :
      Learns h event key (.listed source) (.ready pool)
  | built {source : DataSource} {pool : P} (builds : h.Builds event key source pool)
      (registered : (h.step event).router.registry.get? key = some pool) :
      Learns h event key (.listed source) (.ready pool)

/-- Where a call comes from that is under way after an event: it was under way before, it begins
with the event, or it is taken one step further. -/
theorem calls_step {call : Call P} (under : (h.step event).calls n = some call) :
    (h.calls n = some call ∧ event ≠ .finish call.context) ∨
      (event = .begin n (some call.context) call.key ∧
        Router.contextFor { context := some call.context } h.contexts call.key = .ok call.context ∧
        call.stage = (h.router.registry.get? call.key).elim .asked .ready) ∨
      ∃ factory stage, event = .advance n factory ∧
        h.calls n = some ⟨call.context, call.key, stage⟩ ∧
        h.Learns event call.key stage call.stage := by
  have kept {now : Call P} (under : Function.update h.calls n (some now) n = some call) :
      now = call :=
    Option.some.inj ((Function.update_self n (some now) h.calls).symm.trans under)
  cases event with
  | finish context =>
    obtain ⟨there, apart⟩ := Option.filter_eq_some_iff.1 under
    refine .inl ⟨there, fun same => ?_⟩
    cases same
    simp at apart
  | begin m context key =>
    cases admitted : Router.contextFor { context } h.contexts key with
    | error reason =>
      rw [step, begin_refused admitted] at under
      exact .inl ⟨under, by simp⟩
    | ok c =>
      rw [step, begin_admitted admitted, calls_keep] at under
      split at under
      · next same =>
        cases under
        obtain ⟨-, own, -⟩ := Router.contextFor_eq_ok.1 admitted
        cases own
        exact .inr (.inl ⟨by rw [same], admitted, rfl⟩)
      · exact .inl ⟨under, by simp⟩
  | advance m factory =>
    by_cases own : n = m
    · subst own
      rw [step] at under
      generalize result : h.advance n factory = result at under
      cases result ▸ h.progress n factory with
      | absent free => cases free.symm.trans under
      | listed asked found =>
        obtain rfl := kept under
        exact .inr (.inr ⟨factory, _, rfl, asked, .listed found⟩)
      | reused listed registered =>
        obtain rfl := kept under
        exact .inr (.inr ⟨factory, _, rfl, listed, .reused registered⟩)
      | @built context key source pool listed absent made =>
        obtain rfl := kept under
        have after : (h.step (.advance n factory)).router = h.router.register key pool := by
          rw [step, result]
        have builds : h.Builds (.advance n factory) key source pool :=
          ⟨n, factory, context, rfl, listed, made, congrArg Router.created after⟩
        refine .inr (.inr ⟨factory, _, rfl, listed, .built builds ?_⟩)
        rw [after]
        exact (Registry.get?_insert h.router.registry key key pool).trans (if_pos rfl)
      | unlisted => exact absurd under (by simp [calls_drop])
      | failed => exact absurd under (by simp [calls_drop])
      | selected => exact absurd under (by simp [drop])
      | ended => exact absurd under (by simp [calls_drop])
    · rw [step, advance_other h factory own] at under
      exact .inl ⟨under, by simp⟩
  | abandon m =>
    rw [step, calls_drop] at under
    split at under
    · cases under
    · exact .inl ⟨under, by simp⟩
  | _ => exact .inl ⟨under, by simp⟩

end Routing

end RowGuard
