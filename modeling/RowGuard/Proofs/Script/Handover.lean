import RowGuard.Proofs.Script.Balance
/-!
What handed-on work sees. The identity of a context never changes, and a captured context is
nobody else's until the work that captured it is run, so work that captured a context sees what its
submitter saw, whenever and wherever it runs.
-/
namespace RowGuard.Script

variable {P : Type}

/-- What a task sees of its surroundings: its context, and whether the tenant line is lifted. -/
def sees (task : Task) (session : Session P) : Option (RequestContext P) × Bool :=
  (task.current session.contexts, task.suspended)

theorem Move.caller {first next : Point P} (move : Move first next) {c : Nat}
    (old : c < first.session.contexts.nextContext) {ctx : RequestContext P}
    (live : next.session.contexts.get? c = some ctx) :
    (first.session.contexts.get? c).map (·.caller) = some ctx.caller := by
  have alike {task : Task} {before after : Session P} (within : Session.Local task before after)
      (live : after.contexts.get? c = some ctx) :
      (before.contexts.get? c).map (·.caller) = some ctx.caller := by
    rw [← within.callers, live, Option.map_some]
  cases move with
  | within frames within => exact alike within live
  | defer frames task session name body =>
    rw [get?_defer old] at live
    rw [live, Option.map_some]
  | inside frames session inner seen => rw [live, Option.map_some]
  | @enter frames task session inner entered own origin =>
    have same : session.contexts.get? c = some ctx :=
      (ContextStore.get?_enter_of_lt old).symm.trans live
    rw [same, Option.map_some]
  | resume frames kept => rw [live, Option.map_some]
  | route frames own within => exact alike within live
  | leave frames outer task closing session =>
    have stays : closing ≠ .finish c := by
      rintro rfl
      have ended := (ContextStore.get?_finish session.contexts c c).symm.trans live
      rw [if_pos rfl] at ended
      cases ended
    have same := Closing.callers_close stays session
    exact same.symm.trans (congrArg (Option.map RequestContext.caller) live)

theorem Leads.caller {first later : Point P} (leads : Leads first later) {c : Nat}
    (old : c < first.session.contexts.nextContext) {ctx : RequestContext P}
    (live : later.session.contexts.get? c = some ctx) :
    (first.session.contexts.get? c).map (·.caller) = some ctx.caller := by
  induction leads generalizing ctx with
  | refl => rw [live, Option.map_some]
  | tail earlier move ih =>
    have before := move.caller (Nat.lt_of_lt_of_le old (Leads.nextContext_le earlier)) live
    obtain ⟨ctx', found, same⟩ := Option.map_eq_some_iff.1 before
    rw [ih found, same]

theorem Leads.identity {frames frames' : List Frame} {task : Task} {first later : Session P}
    (orderly : Point.Orderly ⟨frames, task, first⟩)
    (leads : Leads ⟨frames, task, first⟩ ⟨frames', task, later⟩) :
    (task.current later.contexts).map (·.caller) =
      (task.current first.contexts).map (·.caller) := by
  unfold Task.current
  cases own : task.context with
  | none => rfl
  | some c =>
    obtain ⟨ctx, live⟩ := Option.isSome_iff_exists.1
      ((orderly.leads leads).lives task List.mem_cons_self c own)
    have same := leads.caller (orderly.works_lt List.mem_cons_self own) live
    exact (congrArg (Option.map RequestContext.caller) live).trans same.symm

theorem interceptIn_congr (setting : Setting P) {task other : Task} {session there : Session P}
    (callers : (task.current session.contexts).map (·.caller) =
      (other.current there.contexts).map (·.caller))
    (suspended : task.suspended = other.suspended) (s : Statement) :
    interceptIn setting task session s = interceptIn setting other there s := by
  unfold interceptIn
  cases here : task.current session.contexts with
  | none =>
    rw [here, Option.map_none] at callers
    rw [Option.map_eq_none_iff.1 callers.symm]
  | some ctx =>
    rw [here, Option.map_some] at callers
    obtain ⟨ctx', found, same⟩ := Option.map_eq_some_iff.1 callers.symm
    simp only [found, same, suspended]

/-- Whether a step of a runner runs a body so that it sees what a submitter saw: it starts with
the context and the suspension the submitter had, and at every moment of the work a statement is
guarded as it would have been for the submitter. -/
def RunsAs (setting : Setting P) (frames : List Frame) (runner : Task) (now : Session P)
    (step : Step P) (body : List (Step P)) (submitter : Task) (submission : Session P) : Prop :=
  ∃ inner begun captured,
    (∀ run, perform setting run runner step now =
      Session.settled runner step.word .outcome
        ((run inner body begun).1, (run inner body begun).2.finish captured)) ∧
    sees inner begun = sees submitter submission ∧
    ∀ frames' later s,
      Leads ⟨⟨runner, .of captured⟩ :: frames, inner, begun⟩ ⟨frames', inner, later⟩ →
        interceptIn setting inner later s = interceptIn setting submitter submission s

variable {setting : Setting P} {frames : List Frame} {runner submitter inner captured : Task}
  {now begun submission : Session P} {step : Step P} {body : List (Step P)}

theorem RunsAs.of_sees (orderly : Point.Orderly ⟨⟨runner, .of captured⟩ :: frames, inner, begun⟩)
    (performs : ∀ run, perform setting run runner step now =
      Session.settled runner step.word .outcome
        ((run inner body begun).1, (run inner body begun).2.finish captured))
    (same : sees inner begun = sees submitter submission) :
    RunsAs setting frames runner now step body submitter submission := by
  refine ⟨inner, begun, captured, performs, same, fun frames' later s leads => ?_⟩
  obtain ⟨current, suspended⟩ := Prod.mk.inj same
  refine interceptIn_congr setting ?_ suspended s
  rw [Leads.identity orderly leads, current]

theorem sees_capture (task : Task) (session : Session P) :
    sees (task.capture session.contexts).1
      { session with contexts := (task.capture session.contexts).2 } = sees task session := by
  rw [Task.capture_eq]
  cases seen : task.current session.contexts with
  | none => rw [sees, sees, seen]; rfl
  | some ctx =>
    have there : (session.contexts.enter ctx).2.get? session.contexts.nextContext = some ctx := by
      rw [ContextStore.get?_enter, if_pos rfl]
    rw [sees, sees, seen]
    exact congrArg (·, task.suspended) there

/-- Work that captured a context sees what its submitter saw, as long as its copy is as it was and
no suspension comes from the runner alone. -/
theorem sees_resume {ctx : RequestContext P}
    (seen : submitter.current submission.contexts = some ctx)
    (there : now.contexts.get? submission.contexts.nextContext = some ctx)
    (lifted : runner.suspended = true → submitter.suspended = true) :
    sees ((submitter.capture submission.contexts).1.resume runner) now =
      sees submitter submission := by
  have suspended : (submitter.suspended || runner.suspended) = submitter.suspended := by
    cases own : runner.suspended with
    | false => rw [Bool.or_false]
    | true => rw [lifted own, Bool.or_true]
  rw [Task.capture_eq, seen, sees, sees, seen]
  exact congrArg₂ Prod.mk there suspended

theorem sees_resume_runner (seen : submitter.current submission.contexts = none) :
    sees ((submitter.capture submission.contexts).1.resume runner) now = sees runner now := by
  rw [Task.capture_eq, seen]
  rfl

theorem runsAs_thread (orderly : Point.Orderly ⟨frames, submitter, submission⟩) :
    RunsAs setting frames submitter submission (.spawn .thread body) body submitter submission :=
  .of_sees (orderly.move (.handed frames rfl rfl)) (fun _ => rfl)
    (sees_capture submitter submission)

theorem runsAs_captured (orderly : Point.Orderly ⟨frames, submitter, submission⟩)
    (shown : (submitter.current submission.contexts).isSome ∨ submitter.suspended = false) :
    RunsAs setting frames submitter submission (.spawn .captured body) body submitter
      submission := by
  have inner : ((submitter.capture submission.contexts).1.resume .bare).context =
      (submitter.capture submission.contexts).1.context := by
    rw [Task.context_resume, Task.bare, Option.or_none]
  refine .of_sees (orderly.move (.handed frames rfl inner)) (fun _ => rfl) ?_
  cases seen : submitter.current submission.contexts with
  | none =>
    rw [seen] at shown
    rw [sees_resume_runner seen, sees, sees, seen, shown.resolve_left Bool.false_ne_true]
    rfl
  | some ctx =>
    have there : (submitter.capture submission.contexts).2.get?
        submission.contexts.nextContext = some ctx := by
      rw [Task.capture_eq, seen, ContextStore.get?_enter, if_pos rfl]
    exact sees_resume seen there fun lifted => absurd lifted Bool.false_ne_true

theorem runsAs_deferred (orderly : Point.Orderly ⟨frames, submitter, submission⟩) {name : String}
    {frames' : List Frame}
    (leads : Leads ⟨frames, submitter, submission.defer submitter name body⟩ ⟨frames', runner, now⟩)
    (kept : Table.find? name now.deferred =
      some ⟨(submitter.capture submission.contexts).1, body⟩)
    (shown : (submitter.current submission.contexts).isSome ∧
        (runner.suspended = true → submitter.suspended = true) ∨
      submitter.current submission.contexts = none ∧ runner.context = none ∧
        runner.suspended = submitter.suspended) :
    RunsAs setting frames' runner now (.runDeferred name) body submitter submission := by
  have submitted := orderly.move (.defer frames submitter submission name body)
  refine .of_sees ((submitted.leads leads).move (.resume frames' kept)) (fun run => ?_) ?_
  · simp only [perform, Session.runDeferred, kept, Option.map_some]
  · cases seen : submitter.current submission.contexts with
    | none =>
      rw [seen] at shown
      obtain ⟨-, absent, suspended⟩ := shown.resolve_left fun captured => Bool.false_ne_true captured.1
      rw [sees_resume_runner seen, sees, sees, seen, suspended, Task.current, absent]
      rfl
    | some ctx =>
      rw [seen] at shown
      obtain ⟨-, lifted⟩ := shown.resolve_right fun none => Option.some_ne_none ctx none.1
      have first : (submission.defer submitter name body).contexts =
          (submission.contexts.enter ctx).2 := by
        rw [Session.defer, Task.capture_eq, seen]
      have work : (submitter.capture submission.contexts).1.context =
          some submission.contexts.nextContext := by
        rw [Task.capture_eq, seen]
      have captive : submission.contexts.nextContext ∈ now.captives :=
        Session.captive_of_find? kept work
      have old : submission.contexts.nextContext <
          (submission.defer submitter name body).contexts.nextContext := by
        rw [first]
        exact Nat.lt_succ_self _
      have there := submitted.get?_leads leads old captive
      dsimp only at there
      rw [first, ContextStore.get?_enter, if_pos rfl] at there
      exact sees_resume seen there lifted

/-- Handed-on work sees what its submitter saw when it submitted it: on a thread of its own always,
in a new task if there was a context or no suspension, and kept for later, however much happens in
between and wherever it is run, if it captured a context and the runner lifts nothing on its own,
or if the runner has no context either and the same suspension. -/
theorem handed_on_work_sees_its_submitter
    (reached : Reached ⟨frames, submitter, submission⟩) (setting : Setting P)
    (body : List (Step P)) :
    RunsAs setting frames submitter submission (.spawn .thread body) body submitter submission ∧
      ((submitter.current submission.contexts).isSome ∨ submitter.suspended = false →
        RunsAs setting frames submitter submission (.spawn .captured body) body submitter
          submission) ∧
      ∀ name frames' runner now,
        Leads ⟨frames, submitter, submission.defer submitter name body⟩ ⟨frames', runner, now⟩ →
        Table.find? name now.deferred =
          some ⟨(submitter.capture submission.contexts).1, body⟩ →
        ((submitter.current submission.contexts).isSome ∧
            (runner.suspended = true → submitter.suspended = true) ∨
          submitter.current submission.contexts = none ∧ runner.context = none ∧
            runner.suspended = submitter.suspended) →
        RunsAs setting frames' runner now (.runDeferred name) body submitter submission :=
  ⟨runsAs_thread reached.orderly, runsAs_captured reached.orderly,
    fun _ _ _ _ leads kept shown => runsAs_deferred reached.orderly leads kept shown⟩

/-- Work kept by one request and run inside another one. -/
theorem handed_on_work_sees_its_submitter_elsewhere :
    Reached ⟨[⟨.bare, .finish 0⟩], Task.bare.inContext 0, oneRequest⟩ ∧
      RunsAs { factory := fun created _ => .ok created }
        [⟨Task.bare.inContext 0, .finish 2⟩, ⟨.bare, .finish 0⟩] (Task.bare.inContext 2)
        { oneRequest.defer (Task.bare.inContext 0) "later" [.observe] with
          contexts := ((oneRequest.defer (Task.bare.inContext 0) "later"
            [.observe]).contexts.enter { caller := { tenant := ⟨some ⟨6⟩⟩ } }).2 }
        (.runDeferred "later") [.observe] (Task.bare.inContext 0) oneRequest :=
  ⟨reached_oneRequest,
    (handed_on_work_sees_its_submitter reached_oneRequest _ [.observe]).2.2 "later" _ _ _
      (.single (.enter _ (Task.bare.inContext 2) { caller := { tenant := ⟨some ⟨6⟩⟩ } } rfl
        (.inl rfl))) rfl (.inl ⟨rfl, fun lifted => nomatch lifted⟩)⟩

def views (program : List (Step Nat)) : List (Option Caller × Bool) :=
  (run { factory := fun created _ => .ok created } program {}).2.log.reverse.filterMap fun entry =>
    match entry.reply with
    | .view seen => some (seen.caller, seen.suspended)
    | _ => none

/-- Work kept without a context sees the request it is run in, work kept in one sees a suspension
that only its runner has, and a suspension alone reaches a thread but no new task. -/
theorem handed_on_work_can_see_its_runner :
    views [.defer "later" [.observe],
        .scope .awaited { tenant := ⟨some ⟨6⟩⟩ } [.runDeferred "later"]] =
      [(some { tenant := ⟨some ⟨6⟩⟩ }, false)] ∧
    views [.scope .awaited { tenant := ⟨some ⟨5⟩⟩ }
        [.observe, .defer "later" [.observe], .suspend [.runDeferred "later"]]] =
      [(some { tenant := ⟨some ⟨5⟩⟩ }, false), (some { tenant := ⟨some ⟨5⟩⟩ }, true)] ∧
    views [.suspend [.spawn .captured [.observe], .spawn .thread [.observe]]] =
      [(none, false), (none, true)] := by
  decide +kernel

end RowGuard.Script
