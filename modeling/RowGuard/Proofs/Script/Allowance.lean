import Mathlib.Algebra.Order.BigOperators.Group.List
import Mathlib.Algebra.Order.Ring.Nat
import RowGuard.Proofs.Script.Runs
/-!
Programs end. A step is carried out at most once, also where it is kept and run later, so the
allowance a program starts with is never used up.
-/
namespace RowGuard.Script

variable {P : Type}

def Session.weight (session : Session P) : Nat :=
  (session.deferred.map fun kept => Step.sizes kept.2.body).sum

theorem weight_defer (task : Task) (session : Session P) (name : String) (body : List (Step P)) :
    (session.defer task name body).weight ≤ session.weight + Step.sizes body := by
  let work : Deferred P := ⟨(task.capture session.contexts).1, body⟩
  obtain ⟨front, back, split, kept⟩ := Table.insert_eq name work session.deferred
  have fewer := (kept.map fun kept => Step.sizes kept.2.body).sum_le_sum fun _ _ => Nat.zero_le _
  change ((Table.insert name work session.deferred).map _).sum ≤ _
  rw [split, List.map_append, List.map_cons, List.sum_append, List.sum_cons]
  rw [List.map_append, List.sum_append] at fewer
  change _ + (Step.sizes body + _) ≤ (session.deferred.map _).sum + _
  omega

theorem weight_erase {session : Session P} {name : String} {work : Deferred P}
    (kept : Table.find? name session.deferred = some work) :
    Session.weight { session with deferred := Table.erase name session.deferred } +
      Step.sizes work.body = session.weight := by
  obtain ⟨front, back, split, erased⟩ := Table.erase_of_find? kept
  rw [Session.weight, Session.weight, erased, split, List.map_append, List.map_append,
    List.map_cons, List.sum_append, List.sum_append, List.sum_cons]
  dsimp only
  omega

/-- A body is through and keeps no more steps than it held. -/
structure Through (before : Session P) (steps : Nat) (result : Outcome × Session P) : Prop where
  ends : result.1 ≠ .unfinished
  weight : result.2.weight ≤ before.weight + steps

variable {before : Session P} {steps : Nat}

theorem Through.ok {after : Session P} (weight : after.weight ≤ before.weight + steps) :
    Through before steps (.ok, after) :=
  ⟨by simp, weight⟩

theorem Through.failed {after : Session P} (message : String)
    (weight : after.weight ≤ before.weight + steps) :
    Through before steps (.failed message, after) :=
  ⟨by simp, weight⟩

theorem Through.settled {task : Task} {word : String} {reply : Outcome → Reply P}
    {result : Outcome × Session P} (through : Through before steps result) :
    Through before steps (Session.settled task word reply result) := by
  obtain ⟨outcome, after⟩ := result
  cases outcome with
  | unfinished => exact absurd rfl through.ends
  | ok => exact .ok through.weight
  | failed message => exact .ok through.weight

theorem Through.answered {task : Task} {word : String} {result : Reply P × Session P}
    (within : Session.Local task before result.2) :
    Through before 1 (Session.answered task word result) := by
  refine .ok ?_
  change Session.weight result.2 ≤ _
  rw [Session.weight, within.deferred]
  exact Nat.le_add_right _ 1

/-- Whether a runner gets through every body that fits an allowance. -/
def Suffices (allowance : Nat) (run : Runner P) : Prop :=
  ∀ task body before, Step.sizes body + before.weight < allowance →
    Through before (Step.sizes body) (run task body before)

variable {allowance : Nat} {run : Runner P} {body : List (Step P)}

theorem Suffices.around (enough : Suffices allowance run)
    (fits : Step.sizes body + 1 + before.weight ≤ allowance) (inner : Task) (begun : Session P)
    {result : Outcome × Session P} (begins : begun.deferred = before.deferred)
    (outcome : result.1 = (run inner body begun).1)
    (ends : result.2.deferred = (run inner body begun).2.deferred) :
    Through before (Step.sizes body + 1) result := by
  have same : begun.weight = before.weight := by rw [Session.weight, Session.weight, begins]
  have through := enough inner body begun (by omega)
  refine ⟨by rw [outcome]; exact through.ends, ?_⟩
  have bound := through.weight
  rw [Session.weight, ends]
  change Session.weight _ ≤ _
  omega

theorem deferred_finish (session : Session P) (captured : Task) :
    (session.finish captured).deferred = session.deferred := by
  unfold Session.finish
  split <;> rfl

theorem Suffices.inNewTask (enough : Suffices allowance run)
    (fits : Step.sizes body + 1 + before.weight ≤ allowance) (task : Task) (handover : Handover) :
    Through before (Step.sizes body + 1) (before.inNewTask run task handover body) := by
  cases handover with
  | nothing => exact enough.around fits .bare before rfl rfl rfl
  | captured =>
    exact enough.around fits ((task.capture before.contexts).1.resume .bare)
      { before with contexts := (task.capture before.contexts).2 } rfl rfl (deferred_finish _ _)
  | thread =>
    exact enough.around fits (task.capture before.contexts).1
      { before with contexts := (task.capture before.contexts).2 } rfl rfl (deferred_finish _ _)

theorem Suffices.inRoute (enough : Suffices allowance run)
    (fits : Step.sizes body + 1 + before.weight ≤ allowance) {setting : Setting P} {task : Task}
    {key : String} {ticket : Ticket} {entered : Session P}
    (selected : before.selectTenant setting.factory task key = (.ok ticket, entered)) :
    Through before (Step.sizes body + 1)
      ((run task body entered).1, ((run task body entered).2.withdraw ticket).2) := by
  obtain ⟨context, pool, own, pushed, tickets, guards, deferred⟩ :=
    Session.selectTenant_ok selected
  exact enough.around fits task entered deferred rfl rfl

theorem Suffices.runDeferred (enough : Suffices allowance run)
    (fits : 1 + before.weight ≤ allowance) {task : Task} {name : String}
    {result : Outcome × Session P}
    (ran : before.runDeferred run task name = some result) : Through before 1 result := by
  obtain ⟨work, kept, rfl⟩ := Option.map_eq_some_iff.1 ran
  have taken := weight_erase kept
  have through := enough (work.captured.resume task) work.body
    { before with deferred := Table.erase name before.deferred } (by omega)
  refine ⟨through.ends, ?_⟩
  have bound := through.weight
  dsimp only
  rw [Session.weight, deferred_finish]
  change Session.weight _ ≤ _
  omega

theorem Suffices.perform (enough : Suffices allowance run) (setting : Setting P) (task : Task)
    (step : Step P) (before : Session P) (fits : step.size + before.weight ≤ allowance) :
    Through before step.size (perform setting run task step before) := by
  have still (reply : Reply P) :
      Through before 1 (Session.answered task step.word (reply, before)) :=
    .answered (.refl task before)
  have entering (caller : Caller) (body : List (Step P))
      (fits : Step.sizes body + 1 + before.weight ≤ allowance) :
      Through before (Step.sizes body + 1) (before.inScope run task caller body) :=
    enough.around fits (task.inContext (before.contexts.start caller).1)
      { before with contexts := (before.contexts.start caller).2 } rfl rfl rfl
  cases step with
  | observe => exact still _
  | scope kind caller body =>
    cases kind with
    | awaited => exact (entering caller body fits).settled
    | blocking => exact (entering caller body fits).settled
    | panicking => exact (entering caller body fits).settled
  | suspend body =>
    have through := enough.around fits task.withoutLine before rfl rfl rfl
    exact through.settled
  | spawn handover body => exact (enough.inNewTask fits task handover).settled
  | defer name body =>
    exact .ok (Nat.le_succ_of_le (weight_defer task before name body))
  | runDeferred name =>
    rw [Script.perform]
    cases ran : before.runDeferred run task name with
    | none => exact still _
    | some result => exact (enough.runDeferred fits ran).settled
  | push name key => exact .answered (.push task before name key none)
  | select name key pool => exact .answered (.push task before name key (some pool))
  | pop => exact .answered (.pop task before)
  | release name => exact .answered (.release task before name)
  | change name key => exact .answered (.change task before setting.factory name key)
  | dropGuard name => exact .answered (.dropGuard task before name)
  | route key body =>
    rw [Script.perform]
    rcases before.inRoute_cases setting run task key body with ⟨reason, refused⟩ |
      ⟨ticket, entered, selected, ran⟩
    · rw [refused]
      exact .ok (Nat.le_add_right _ _)
    · rw [ran]
      exact (enough.inRoute fits selected).settled
  | cancel key body =>
    rw [Script.perform]
    rcases before.inRoute_cases setting run task key body with ⟨reason, refused⟩ |
      ⟨ticket, entered, selected, ran⟩
    · rw [refused]
      exact .ok (Nat.le_add_right _ _)
    · rw [ran]
      exact (enough.inRoute fits selected).settled
  | remove key => exact .answered (.remove task before key)
  | contains key => exact still _
  | pool key => exact still _
  | registered => exact still _
  | provide key source => exact .ok (Nat.le_add_right _ 1)
  | unprovide key => exact .ok (Nat.le_add_right _ 1)
  | intercept s => exact still _
  | fail message => exact .failed message (Nat.le_add_right _ 1)
  | invalid word known => exact still _

theorem suffices_runWithin (setting : Setting P) (allowance : Nat) :
    Suffices allowance (runWithin setting allowance) := by
  induction allowance with
  | zero => exact fun task body before fits => absurd fits (Nat.not_lt_zero _)
  | succ allowance ih =>
    intro task body before fits
    change Through before (Step.sizes body)
      (inSequence (perform setting (runWithin setting allowance) task) body before)
    induction body generalizing before with
    | nil => exact .ok (Nat.le_add_right _ _)
    | cons step rest following =>
      rw [Step.sizes] at fits
      have first := ih.perform setting task step before (by omega)
      rw [inSequence, Step.sizes]
      split
      · next session performed =>
        rw [performed] at first
        have weight := first.weight
        dsimp only at weight
        have later := following session (by omega)
        exact ⟨later.ends, by have rest := later.weight; omega⟩
      · next outcome session performed =>
        rw [performed] at first
        exact ⟨first.ends, by have weight := first.weight; dsimp only at weight ⊢; omega⟩

/-- Every program ends by succeeding or by failing. -/
theorem run_ends (setting : Setting P) (program : List (Step P)) (router : Router P) :
    (Script.run setting program { router }).1 ≠ .unfinished :=
  (suffices_runWithin setting _ .bare program { router } (Nat.lt_succ_self _)).ends

end RowGuard.Script
