import RowGuard.Proofs.DataSource.Routing
import RowGuard.Proofs.Script.Runs
/-!
Programs as runs of routed work. What a program does to pools and to selections is done by events,
one after the other, and what it observes on its way is what work observes after some of them.
-/
namespace RowGuard.Script

variable {P : Type}

mutual

/-- Whether a step, with the steps in it, leaves it to the router to bring in pools. -/
def Step.bringsNoPool : Step P → Bool
  | .select _ _ _ => false
  | .scope _ _ body => Step.bringNoPool body
  | .suspend body => Step.bringNoPool body
  | .spawn _ body => Step.bringNoPool body
  | .defer _ body => Step.bringNoPool body
  | .route _ body => Step.bringNoPool body
  | .cancel _ body => Step.bringNoPool body
  | _ => true

def Step.bringNoPool : List (Step P) → Bool
  | [] => true
  | step :: rest => step.bringsNoPool && Step.bringNoPool rest

end

namespace Session

/-- What routing knows of a session. Steps follow one another, so no change is under way between
them. -/
def routing (session : Session P) : Routing P :=
  { router := session.router, contexts := session.contexts }

theorem observe_routing (session : Session P) (task : Task) :
    (session.observe task).pool = session.routing.currentPool task.context ∧
      (session.observe task).selected = (session.routing.selected task.context).map (·.key) := by
  have same : (session.routing.task task.context).current session.routing.contexts =
      task.current session.contexts := Routing.current_task session.routing task.context
  rw [Routing.currentPool, Routing.selected, same]
  exact ⟨rfl, rfl⟩

theorem routing_selectTenant (session : Session P) (factory : PoolFactory P) (task : Task)
    (key : String) :
    (session.selectTenant factory task key).2.routing = session.routing.run
      [.begin 0 task.context key, .advance 0 factory, .advance 0 factory, .advance 0 factory] := by
  rw [Routing.select_by_steps rfl]
  rfl

end Session

/-- What was observed is what work in some context finds after some events. -/
def Found (start : Routing P) (seen : Observation P) : Prop :=
  ∃ events context, seen.pool = (start.run events).currentPool context ∧
    seen.selected = ((start.run events).selected context).map (·.key)

structure Routed (start : Routing P) (session : Session P) : Prop where
  reached : ∃ events, session.routing = start.run events
  found : ∀ entry ∈ session.log, ∀ seen, entry.reply = .view seen → Found start seen
  kept : ∀ work ∈ session.deferred, Step.bringNoPool work.2.body = true

variable {start : Routing P} {before after : Session P} {task : Task} {word : String}
  {runner : Runner P} {body : List (Step P)}

theorem Routed.along (routed : Routed start before) (events : List (RoutingEvent P))
    (same : after.routing = before.routing.run events) (log : after.log = before.log)
    (kept : ∀ work ∈ after.deferred, work ∈ before.deferred) : Routed start after where
  reached := by
    obtain ⟨earlier, reached⟩ := routed.reached
    exact ⟨earlier ++ events, by rw [Routing.run_append, ← reached, same]⟩
  found := log ▸ routed.found
  kept work member := routed.kept work (kept work member)

theorem Routed.moved (routed : Routed start before) (event : RoutingEvent P)
    (same : after.routing = before.routing.step event) (log : after.log = before.log)
    (kept : ∀ work ∈ after.deferred, work ∈ before.deferred) : Routed start after :=
  routed.along [event] same log kept

theorem Routed.answer (routed : Routed start before) {reply : Reply P}
    (found : ∀ seen, reply = .view seen → Found start seen) :
    Routed start (before.answer task word reply) where
  reached := routed.reached
  found entry member := by
    rcases List.mem_cons.1 member with rfl | older
    · exact found
    · exact routed.found entry older
  kept := routed.kept

theorem Routed.settled {reply : Outcome → Reply P} {result : Outcome × Session P}
    (routed : Routed start result.2) (quiet : ∀ outcome seen, reply outcome ≠ .view seen) :
    Routed start (Session.settled task word reply result).2 := by
  obtain ⟨outcome, after⟩ := result
  cases outcome with
  | unfinished => exact routed
  | ok => exact routed.answer fun seen same => absurd same (quiet _ seen)
  | failed message => exact routed.answer fun seen same => absurd same (quiet _ seen)

theorem Routed.withdraw (routed : Routed start before) (ticket : Ticket) :
    Routed start (before.withdraw ticket).2 :=
  routed.moved (.release ticket) rfl rfl fun _ member => member

theorem Routed.finish (routed : Routed start before) (captured : Task) :
    Routed start (before.finish captured) := by
  unfold Session.finish
  split
  · exact routed
  · next context _ => exact routed.moved (.finish context) rfl rfl fun _ member => member

theorem Routed.provide (routed : Routed start before) (catalog : DataSource.Catalog) :
    Routed start (before.withCatalog catalog) :=
  routed.moved (.provide catalog) rfl rfl fun _ member => member

theorem Routed.capture (routed : Routed start before) {captured : Task} {contexts : ContextStore P}
    (capture : task.capture before.contexts = (captured, contexts)) :
    Routed start { before with contexts } := by
  rcases Task.capture_cases capture with ⟨-, rfl⟩ | ⟨c, ctx, live, -, rfl⟩
  · exact routed
  · refine routed.moved (.copy c) ?_ rfl fun _ member => member
    have copied : before.routing.contexts.copy c = some (before.contexts.enter ctx) :=
      ContextStore.copy_eq live
    rw [Routing.step, copied]
    rfl

/-- A step that is answered without an observation and leads on by events. -/
structure Quiet (start : Routing P) (result : Reply P × Session P) : Prop where
  routed : Routed start result.2
  silent : ∀ seen, result.1 ≠ .view seen

theorem Quiet.answered {result : Reply P × Session P} (quiet : Quiet start result) :
    Routed start (Session.answered task word result).2 :=
  quiet.routed.answer fun seen same => absurd same (quiet.silent seen)

theorem Routed.push (routed : Routed start before) (task : Task) (name key : String) :
    Quiet start (before.push task name key none) := by
  unfold Session.push
  cases own : task.context with
  | none => exact ⟨routed, by simp⟩
  | some context =>
    rw [Option.bind_some]
    cases pushed : before.contexts.push context key none with
    | none => exact ⟨routed, by simp⟩
    | some issue =>
      refine ⟨routed.moved (.push context key) ?_ rfl fun _ member => member, by simp⟩
      have done : before.routing.contexts.push context key none = some issue := pushed
      rw [Routing.step, done]
      rfl

theorem Routed.pop (routed : Routed start before) (task : Task) :
    Quiet start (before.pop task) := by
  unfold Session.pop
  cases own : task.context with
  | none => exact ⟨routed, by simp⟩
  | some context =>
    refine ⟨routed.moved (.pop context) rfl rfl fun _ member => member, fun seen => ?_⟩
    dsimp only
    cases (before.contexts.pop context).1 <;> simp

theorem Routed.release (routed : Routed start before) (name : String) :
    Quiet start (before.release name) := by
  unfold Session.release
  cases Table.find? name before.tickets with
  | none => exact ⟨routed, by simp⟩
  | some ticket => exact ⟨routed.withdraw ticket, by simp⟩

theorem Routed.dropGuard (routed : Routed start before) (name : String) :
    Quiet start (before.dropGuard name) := by
  unfold Session.dropGuard
  cases Table.find? name before.guards with
  | none => exact ⟨routed, by simp⟩
  | some ticket => exact ⟨routed.moved (.release ticket) rfl rfl fun _ member => member, by simp⟩

theorem Routed.selectTenant (routed : Routed start before) (factory : PoolFactory P) (task : Task)
    (key : String) : Routed start (before.selectTenant factory task key).2 :=
  routed.along _ (before.routing_selectTenant factory task key) rfl fun _ member => member

theorem Routed.change (routed : Routed start before) (factory : PoolFactory P) (task : Task)
    (name key : String) : Quiet start (before.change factory task name key) := by
  have chosen := routed.selectTenant factory task key
  unfold Session.change
  generalize before.selectTenant factory task key = result at chosen
  obtain ⟨reason | ticket, entered⟩ := result
  · exact ⟨chosen, by simp⟩
  · have dropped := (chosen.dropGuard name).routed
    exact ⟨⟨dropped.reached, dropped.found, dropped.kept⟩, by simp⟩

def Routes (start : Routing P) (runner : Runner P) : Prop :=
  ∀ task body before, Step.bringNoPool body = true → Routed start before →
    Routed start (runner task body before).2

theorem Routes.inScope (routes : Routes start runner) (routed : Routed start before)
    (caller : Caller) (clean : Step.bringNoPool body = true) :
    Routed start (before.inScope runner task caller body).2 := by
  have begun : Routed start { before with contexts := (before.contexts.start caller).2 } :=
    routed.moved (.start caller) rfl rfl fun _ member => member
  have through := routes (task.inContext (before.contexts.start caller).1) body _ clean begun
  exact through.moved (.finish (before.contexts.start caller).1) rfl rfl fun _ member => member

theorem Routes.inNewTask (routes : Routes start runner) (routed : Routed start before)
    (handover : Handover) (clean : Step.bringNoPool body = true) :
    Routed start (before.inNewTask runner task handover body).2 := by
  cases handover with
  | nothing => exact routes .bare body before clean routed
  | captured => exact (routes _ body _ clean (routed.capture rfl)).finish _
  | thread => exact (routes _ body _ clean (routed.capture rfl)).finish _

theorem Routes.runDeferred (routes : Routes start runner) (routed : Routed start before)
    {name : String} {result : Outcome × Session P}
    (ran : before.runDeferred runner task name = some result) : Routed start result.2 := by
  obtain ⟨work, kept, rfl⟩ := Option.map_eq_some_iff.1 ran
  have clean := routed.kept _ (Table.mem_of_find? kept)
  have taken : Routed start { before with deferred := Table.erase name before.deferred } :=
    ⟨routed.reached, routed.found,
      fun other member => routed.kept other ((Table.erase_sublist name _).subset member)⟩
  exact (routes (work.captured.resume task) work.body _ clean taken).finish work.captured

theorem Routes.inRoute (routes : Routes start runner) (routed : Routed start before)
    (setting : Setting P) (task : Task) (key : String) (clean : Step.bringNoPool body = true) :
    Routed start (before.inRoute setting runner task key body).2 := by
  have chosen := routed.selectTenant setting.factory task key
  unfold Session.inRoute
  generalize before.selectTenant setting.factory task key = result at chosen
  obtain ⟨reason | ticket, entered⟩ := result
  · exact chosen
  · exact (routes task body entered clean chosen).withdraw ticket

theorem Routes.perform (routes : Routes start runner) (setting : Setting P) (task : Task)
    (step : Step P) (clean : step.bringsNoPool = true) (routed : Routed start before) :
    Routed start (perform setting runner task step before).2 := by
  have outcomes (outcome : Outcome) (seen : Observation P) :
      Reply.outcome outcome ≠ .view seen := by simp
  cases step with
  | observe =>
    obtain ⟨events, reached⟩ := routed.reached
    rw [Script.perform]
    refine routed.answer fun seen same => ?_
    cases same
    exact ⟨events, task.context, reached ▸ before.observe_routing task⟩
  | scope kind caller body =>
    cases kind with
    | awaited => exact (routes.inScope routed caller clean).settled outcomes
    | blocking => exact (routes.inScope routed caller clean).settled outcomes
    | panicking => exact (routes.inScope routed caller clean).settled (by simp)
  | suspend body => exact (routes task.withoutLine body before clean routed).settled outcomes
  | spawn handover body => exact (routes.inNewTask routed handover clean).settled outcomes
  | defer name body =>
    have captured : Routed start { before with contexts := (task.capture before.contexts).2 } :=
      routed.capture rfl
    have deferred : Routed start (before.defer task name body) := by
      refine ⟨captured.reached, captured.found, fun work member => ?_⟩
      rcases Table.mem_of_mem_insert member with rfl | older
      · exact clean
      · exact routed.kept work older
    exact deferred.answer (by simp)
  | runDeferred name =>
    rw [Script.perform]
    cases ran : before.runDeferred runner task name with
    | none => exact routed.answer (by simp)
    | some result => exact (routes.runDeferred routed ran).settled outcomes
  | push name key => exact (routed.push task name key).answered
  | select name key pool => cases clean
  | pop => exact (routed.pop task).answered
  | release name => exact (routed.release name).answered
  | change name key => exact (routed.change setting.factory task name key).answered
  | dropGuard name => exact (routed.dropGuard name).answered
  | route key body =>
    have through := routes.inRoute routed setting task key clean
    rw [Script.perform]
    generalize before.inRoute setting runner task key body = result at through
    obtain ⟨reason | outcome, left⟩ := result
    · exact through.answer (by simp)
    · exact Routed.settled through outcomes
  | cancel key body =>
    have through := routes.inRoute routed setting task key clean
    rw [Script.perform]
    generalize before.inRoute setting runner task key body = result at through
    obtain ⟨reason | outcome, left⟩ := result
    · exact through.answer (by simp)
    · exact Routed.settled through (by simp)
  | remove key =>
    have removed : Routed start (before.remove key).2 :=
      routed.moved (.remove key) rfl rfl fun _ member => member
    exact removed.answer (by simp)
  | contains key => exact routed.answer (by simp)
  | pool key =>
    rw [Script.perform]
    refine routed.answer fun seen same => ?_
    cases found : before.router.registry.get? key <;> rw [found] at same <;> cases same
  | registered => exact routed.answer (by simp)
  | provide key source => exact (routed.provide _).answer (by simp)
  | unprovide key => exact (routed.provide _).answer (by simp)
  | intercept s =>
    rw [Script.perform]
    refine routed.answer fun seen same => ?_
    unfold interceptIn at same
    split at same <;> cases same
  | fail message => exact routed
  | invalid word known => exact routed.answer (by simp)

theorem routes_runWithin (start : Routing P) (setting : Setting P) (allowance : Nat) :
    Routes start (runWithin setting allowance) := by
  induction allowance with
  | zero => exact fun task body before _ routed => routed
  | succ allowance ih =>
    intro task body before clean routed
    change Routed start
      (inSequence (perform setting (runWithin setting allowance) task) body before).2
    induction body generalizing before with
    | nil => exact routed
    | cons step rest following =>
      rw [Step.bringNoPool, Bool.and_eq_true] at clean
      have first := ih.perform setting task step clean.1 routed
      rw [inSequence]
      split
      · next session performed =>
        rw [performed] at first
        exact following session clean.2 first
      · next outcome session performed =>
        rw [performed] at first
        exact first

/-- Whatever a program does to pools and selections is a run of events, and whatever it observes is
what routed work finds after some of them. So all that holds of such runs holds of programs that
leave it to the router to bring in pools. -/
theorem runs_by_events (setting : Setting P) (program : List (Step P))
    (clean : Step.bringNoPool program = true) (catalog : DataSource.Catalog)
    (defaultPool : Option P) :
    let start := Routing.initial catalog defaultPool
    let after := (Script.run setting program { router := { catalog, defaultPool } }).2
    (∃ events, after.routing = start.run events) ∧
      ∀ entry ∈ after.log, ∀ seen, entry.reply = .view seen → ∃ events context,
        seen.pool = (start.run events).currentPool context ∧
        seen.selected = ((start.run events).selected context).map (·.key) := by
  intro start after
  have fresh : Routed start ({ router := { catalog, defaultPool } } : Session P) :=
    ⟨⟨[], rfl⟩, by simp, by simp⟩
  have routed : Routed start after := routes_runWithin start setting _ .bare program _ clean fresh
  exact ⟨routed.reached, routed.found⟩

end RowGuard.Script
