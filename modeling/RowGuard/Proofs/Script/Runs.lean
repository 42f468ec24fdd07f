import RowGuard.Proofs.Script.Locality
/-!
What running a body can do to a session, whatever the body is: a relation with one rule for each
way in which contexts, tickets and kept work come and go. Every run is one of its runs.
-/
namespace RowGuard

theorem Task.capture_eq {P : Type} (task : Task) (store : ContextStore P) :
    task.capture store = match task.current store with
      | some ctx => ({ task with context := some store.nextContext }, (store.enter ctx).2)
      | none => ({ task with context := none }, store) := by
  unfold Task.capture Task.current
  cases task.context with
  | none => rfl
  | some context =>
    rw [Option.bind_some, Option.bind_some, ContextStore.copy]
    cases store.get? context with
    | none => rfl
    | some ctx => rfl

theorem Task.capture_cases {P : Type} {task captured : Task} {store contexts : ContextStore P}
    (capture : task.capture store = (captured, contexts)) :
    captured.context = none ∧ contexts = store ∨
      ∃ c ctx, store.get? c = some ctx ∧ captured.context = some store.nextContext ∧
        contexts = (store.enter ctx).2 := by
  rw [capture_eq] at capture
  cases seen : task.current store with
  | none =>
    rw [seen, Prod.mk.injEq] at capture
    obtain ⟨rfl, rfl⟩ := capture
    exact .inl ⟨rfl, rfl⟩
  | some ctx =>
    rw [seen, Prod.mk.injEq] at capture
    obtain ⟨rfl, rfl⟩ := capture
    obtain ⟨c, -, live⟩ := Option.bind_eq_some_iff.1 seen
    exact .inr ⟨c, ctx, live, rfl, rfl⟩

theorem Task.context_resume (captured runner : Task) :
    (captured.resume runner).context = captured.context.or runner.context := by
  unfold Task.resume
  cases captured.context <;> rfl

namespace Script

variable {P : Type}

mutual

/-- Whether a step, with the steps in it, selects by routing alone. Kept work may be run under the
names that `calls` allows. -/
def Step.routesOnly (calls : String → Bool) : Step P → Bool
  | .push _ _ => false
  | .select _ _ _ => false
  | .pop => false
  | .release _ => false
  | .change _ _ => false
  | .dropGuard _ => false
  | .runDeferred name => calls name
  | .scope _ _ body => Step.routeOnly calls body
  | .suspend body => Step.routeOnly calls body
  | .spawn _ body => Step.routeOnly calls body
  | .defer _ body => Step.routeOnly calls body
  | .route _ body => Step.routeOnly calls body
  | .cancel _ body => Step.routeOnly calls body
  | _ => true

def Step.routeOnly (calls : String → Bool) : List (Step P) → Bool
  | [] => true
  | step :: rest => step.routesOnly calls && Step.routeOnly calls rest

end

def Session.KeepsRouting (calls : String → Bool) (session : Session P) : Prop :=
  ∀ kept ∈ session.deferred, calls kept.1 = true → Step.routeOnly calls kept.2.body = true

/-- What a run for a task may make of a session. Under `quiet` only routing selects. -/
inductive Runs (quiet : Prop) : Task → Session P → Session P → Prop where
  | done (task : Task) (session : Session P) : Runs quiet task session session
  | next {task : Task} {before middle after : Session P} (first : Runs quiet task before middle)
      (second : Runs quiet task middle after) : Runs quiet task before after
  /-- A step without a body. -/
  | within {task : Task} {before after : Session P} (within : Session.Local task before after)
      (calm : quiet → after.contexts = before.contexts) : Runs quiet task before after
  | defer (task : Task) (session : Session P) (name : String) (body : List (Step P)) :
      Runs quiet task session (session.defer task name body)
  /-- A body in the context of the task, or in none. -/
  | inside {task : Task} {before after : Session P} (inner : Task)
      (seen : inner.context = task.context ∨ inner.context = none)
      (run : Runs quiet inner before after) : Runs quiet task before after
  /-- A body in a new context, which is empty or a copy. -/
  | enter {task : Task} {before after : Session P} (inner : Task) (ctx : RequestContext P)
      (own : inner.context = some before.contexts.nextContext)
      (origin : ctx.stack = [] ∨ ∃ c, before.contexts.get? c = some ctx)
      (run : Runs quiet inner { before with contexts := (before.contexts.enter ctx).2 } after) :
      Runs quiet task before
        { after with contexts := after.contexts.finish before.contexts.nextContext }
  | resume {task : Task} {before after : Session P} {name : String} {work : Deferred P}
      (kept : Table.find? name before.deferred = some work)
      (run : Runs quiet (work.captured.resume task)
        { before with deferred := Table.erase name before.deferred } after) :
      Runs quiet task before (after.finish work.captured)
  /-- A body with a selection of its own. -/
  | route {task : Task} {before entered after : Session P} {context : Nat} {key : String}
      {pool : Option (PoolHandle P)} {ticket : Ticket} (own : task.context = some context)
      (pushed : before.contexts.push context key pool = some (ticket, entered.contexts))
      (held : entered.held = before.held) (deferred : entered.deferred = before.deferred)
      (run : Runs quiet task entered after) : Runs quiet task before (after.withdraw ticket).2

variable {quiet : Prop} {calls : String → Bool} {task : Task} {before after : Session P}

theorem Runs.answered (run : Runs quiet task before after) (word : String) (reply : Reply P) :
    Runs quiet task before (after.answer task word reply) :=
  .next run (.within (.answer task after word reply) fun _ => rfl)

theorem Runs.handed {captured inner : Task} {contexts : ContextStore P}
    (capture : task.capture before.contexts = (captured, contexts))
    (same : inner.context = captured.context)
    (run : Runs quiet inner { before with contexts } after) :
    Runs quiet task before (after.finish captured) := by
  rcases Task.capture_cases capture with ⟨nothing, rfl⟩ | ⟨c, ctx, live, copied, rfl⟩
  · rw [Session.finish, nothing]
    exact .inside inner (.inr (same.trans nothing)) run
  · rw [Session.finish, copied]
    exact .enter inner ctx (same.trans copied) (.inr ⟨c, live⟩) run

/-- A run of the relation that goes on keeping the promise about kept work. -/
structure Course (quiet : Prop) (calls : String → Bool) (task : Task) (before after : Session P) :
    Prop where
  runs : Runs quiet task before after
  keeps : quiet → after.KeepsRouting calls

theorem Course.within (keeps : quiet → before.KeepsRouting calls)
    (within : Session.Local task before after) (calm : quiet → after.contexts = before.contexts) :
    Course quiet calls task before after where
  runs := .within within calm
  keeps on := by
    rw [Session.KeepsRouting, within.deferred]
    exact keeps on

theorem Course.answered {word : String} {result : Reply P × Session P}
    (course : Course quiet calls task before result.2) :
    Course quiet calls task before (Session.answered task word result).2 :=
  ⟨course.runs.answered word result.1, course.keeps⟩

theorem Course.settled {word : String} {reply : Outcome → Reply P} {result : Outcome × Session P}
    (course : Course quiet calls task before result.2) :
    Course quiet calls task before (Session.settled task word reply result).2 := by
  obtain ⟨outcome, after⟩ := result
  cases outcome with
  | unfinished => exact course
  | ok => exact ⟨course.runs.answered word (reply .ok), course.keeps⟩
  | failed message => exact ⟨course.runs.answered word (reply (.failed message)), course.keeps⟩

def Follows (quiet : Prop) (calls : String → Bool) (run : Runner P) : Prop :=
  ∀ task body before, (quiet → Step.routeOnly calls body = true) →
    (quiet → before.KeepsRouting calls) →
    Course quiet calls task before (run task body before).2

variable {run : Runner P} {body : List (Step P)}

theorem Follows.inScope (follows : Follows quiet calls run) (caller : Caller)
    (obeys : quiet → Step.routeOnly calls body = true) (keeps : quiet → before.KeepsRouting calls) :
    Course quiet calls task before (before.inScope run task caller body).2 := by
  have inner := follows (task.inContext (before.contexts.start caller).1) body
    { before with contexts := (before.contexts.start caller).2 } obeys keeps
  exact ⟨.enter _ { caller } rfl (.inl rfl) inner.runs, inner.keeps⟩

theorem Follows.inNewTask (follows : Follows quiet calls run) (handover : Handover)
    (obeys : quiet → Step.routeOnly calls body = true) (keeps : quiet → before.KeepsRouting calls) :
    Course quiet calls task before (before.inNewTask run task handover body).2 := by
  have finished (captured inner : Task) (contexts : ContextStore P)
      (capture : task.capture before.contexts = (captured, contexts))
      (same : inner.context = captured.context) :
      Course quiet calls task before
        ((run inner body { before with contexts }).2.finish captured) := by
    have course := follows inner body { before with contexts } obeys keeps
    refine ⟨.handed capture same course.runs, fun on => ?_⟩
    unfold Session.finish
    split
    · exact course.keeps on
    · exact course.keeps on
  cases handover with
  | nothing =>
    have inner := follows .bare body before obeys keeps
    exact ⟨.inside .bare (.inr rfl) inner.runs, inner.keeps⟩
  | captured =>
    refine finished _ _ _ rfl ?_
    rw [Task.context_resume, Task.bare, Option.or_none]
  | thread => exact finished _ _ _ rfl rfl

theorem Follows.runDeferred (follows : Follows quiet calls run) {name : String}
    {result : Outcome × Session P} (allowed : quiet → calls name = true)
    (keeps : quiet → before.KeepsRouting calls)
    (ran : before.runDeferred run task name = some result) :
    Course quiet calls task before result.2 := by
  obtain ⟨work, kept, rfl⟩ := Option.map_eq_some_iff.1 ran
  have member := Table.mem_of_find? kept
  have course := follows (work.captured.resume task) work.body
    { before with deferred := Table.erase name before.deferred }
    (fun on => keeps on _ member (allowed on))
    (fun on other among => keeps on other ((Table.erase_sublist name _).subset among))
  refine ⟨.resume kept course.runs, fun on => ?_⟩
  dsimp only
  unfold Session.finish
  split
  · exact course.keeps on
  · exact course.keeps on

theorem Follows.inRoute (follows : Follows quiet calls run) {setting : Setting P} {key : String}
    {ticket : Ticket} {entered : Session P} (obeys : quiet → Step.routeOnly calls body = true)
    (keeps : quiet → before.KeepsRouting calls)
    (selected : before.selectTenant setting.factory task key = (.ok ticket, entered)) :
    Course quiet calls task before ((run task body entered).2.withdraw ticket).2 := by
  obtain ⟨context, pool, own, pushed, tickets, guards, deferred⟩ :=
    Session.selectTenant_ok selected
  have held : entered.held = before.held := by rw [Session.held, Session.held, tickets, guards]
  have course := follows task body entered obeys fun on => by
    rw [Session.KeepsRouting, deferred]
    exact keeps on
  exact ⟨.route own pushed held deferred course.runs, course.keeps⟩

theorem keepsRouting_defer (obeys : Step.routeOnly calls body = true)
    (keeps : before.KeepsRouting calls) (task : Task) (name : String) :
    (before.defer task name body).KeepsRouting calls := by
  intro kept member allowed
  rcases Table.mem_of_mem_insert member with rfl | older
  · exact obeys
  · exact keeps kept older allowed

theorem Follows.perform (follows : Follows quiet calls run) (setting : Setting P) (task : Task)
    (step : Step P) (before : Session P) (obeys : quiet → step.routesOnly calls = true)
    (keeps : quiet → before.KeepsRouting calls) :
    Course quiet calls task before (perform setting run task step before).2 := by
  have still (reply : Reply P) :
      Course quiet calls task before (Session.answered task step.word (reply, before)).2 :=
    .answered (.within keeps (.refl task before) fun _ => rfl)
  have selects (result : Reply P × Session P) (within : Session.Local task before result.2)
      (never : step.routesOnly calls = false) :
      Course quiet calls task before (Session.answered task step.word result).2 :=
    .answered (.within keeps within fun on => by rw [obeys on] at never; cases never)
  cases step with
  | observe => exact still _
  | scope kind caller body =>
    cases kind with
    | awaited => exact .settled (follows.inScope caller obeys keeps)
    | blocking => exact .settled (follows.inScope caller obeys keeps)
    | panicking => exact .settled (follows.inScope caller obeys keeps)
  | suspend body =>
    have course := follows task.withoutLine body before obeys keeps
    exact .settled ⟨.inside task.withoutLine (.inl rfl) course.runs, course.keeps⟩
  | spawn handover body => exact .settled (follows.inNewTask handover obeys keeps)
  | defer name body =>
    exact .answered ⟨.defer task before name body,
      fun on => keepsRouting_defer (obeys on) (keeps on) task name⟩
  | runDeferred name =>
    rw [Script.perform]
    cases ran : before.runDeferred run task name with
    | none => exact still _
    | some result => exact .settled (follows.runDeferred obeys keeps ran)
  | push name key => exact selects _ (.push task before name key none) rfl
  | select name key pool => exact selects _ (.push task before name key (some pool)) rfl
  | pop => exact selects _ (.pop task before) rfl
  | release name => exact selects _ (.release task before name) rfl
  | change name key => exact selects _ (.change task before setting.factory name key) rfl
  | dropGuard name => exact selects _ (.dropGuard task before name) rfl
  | route key body =>
    rw [Script.perform]
    rcases before.inRoute_cases setting run task key body with ⟨reason, refused⟩ |
      ⟨ticket, entered, selected, ran⟩
    · rw [refused]
      exact still _
    · rw [ran]
      exact .settled (follows.inRoute obeys keeps selected)
  | cancel key body =>
    rw [Script.perform]
    rcases before.inRoute_cases setting run task key body with ⟨reason, refused⟩ |
      ⟨ticket, entered, selected, ran⟩
    · rw [refused]
      exact still _
    · rw [ran]
      exact .settled (follows.inRoute obeys keeps selected)
  | remove key => exact .answered (.within keeps (.remove task before key) fun _ => rfl)
  | contains key => exact still _
  | pool key => exact still _
  | registered => exact still _
  | provide key source => exact .answered (.within keeps (.withCatalog task before _) fun _ => rfl)
  | unprovide key => exact .answered (.within keeps (.withCatalog task before _) fun _ => rfl)
  | intercept s => exact still _
  | fail message => exact .within keeps (.refl task before) fun _ => rfl
  | invalid word known => exact still _

/-- Every run of a body is a run of the relation, however it ends. -/
theorem follows_runWithin (quiet : Prop) (calls : String → Bool) (setting : Setting P)
    (allowance : Nat) : Follows quiet calls (runWithin setting allowance) := by
  induction allowance with
  | zero => exact fun task body before _ keeps => .within keeps (.refl task before) fun _ => rfl
  | succ allowance ih =>
    intro task body before obeys keeps
    change Course quiet calls task before
      (inSequence (perform setting (runWithin setting allowance) task) body before).2
    induction body generalizing before with
    | nil => exact .within keeps (.refl task before) fun _ => rfl
    | cons step rest following =>
      have allowed (on : quiet) :
          step.routesOnly calls = true ∧ Step.routeOnly calls rest = true := by
        have whole := obeys on
        rwa [Step.routeOnly, Bool.and_eq_true] at whole
      have first := ih.perform setting task step before (fun on => (allowed on).1) keeps
      rw [inSequence]
      split
      · next session performed =>
        rw [performed] at first
        have later := following session (fun on => (allowed on).2) first.keeps
        exact ⟨.next first.runs later.runs, later.keeps⟩
      · next outcome session performed =>
        rw [performed] at first
        exact first

end Script

end RowGuard
