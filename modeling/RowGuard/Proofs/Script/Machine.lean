import Mathlib.Logic.Relation
import RowGuard.Proofs.Script.Runs
/-!
The moments of a run, one after the other. A moment has the surroundings of the work at hand and,
for every body around it, what is to be done when that body is through. Runs of bodies lead from
moment to moment, and so do the beginnings and the ends of bodies.
-/
namespace RowGuard.Script

variable {P : Type}

inductive Closing where
  | nothing
  | finish (context : Nat)
  | withdraw (ticket : Ticket)

namespace Closing

def of (captured : Task) : Closing := captured.context.elim nothing finish

def close : Closing → Session P → Session P
  | nothing, session => session
  | finish context, session => { session with contexts := session.contexts.finish context }
  | withdraw ticket, session => (session.withdraw ticket).2

def context? : Closing → Option Nat
  | nothing => none
  | finish context => some context
  | withdraw ticket => some ticket.context

@[simp] theorem context?_of (captured : Task) : (of captured).context? = captured.context := by
  unfold of
  cases captured.context <;> rfl

theorem close_of (captured : Task) (session : Session P) :
    (of captured).close session = session.finish captured := by
  unfold of Session.finish
  cases captured.context <;> rfl

@[simp] theorem held_close (closing : Closing) (session : Session P) :
    (closing.close session).held = session.held := by
  cases closing <;> rfl

@[simp] theorem deferred_close (closing : Closing) (session : Session P) :
    (closing.close session).deferred = session.deferred := by
  cases closing <;> rfl

@[simp] theorem nextContext_close (closing : Closing) (session : Session P) :
    (closing.close session).contexts.nextContext = session.contexts.nextContext := by
  cases closing with
  | nothing => rfl
  | finish context => rfl
  | withdraw ticket => exact (ContextStore.next_release session.contexts ticket).1

theorem sound_close {session : Session P} (sound : session.contexts.Sound) (closing : Closing) :
    (closing.close session).contexts.Sound := by
  cases closing with
  | nothing => exact sound
  | finish context => exact sound.finish context
  | withdraw ticket => exact sound.release ticket

theorem get?_close {closing : Closing} {session : Session P} {c : Nat}
    (apart : closing.context? ≠ some c) :
    (closing.close session).contexts.get? c = session.contexts.get? c := by
  have other {context : Nat} (about : closing.context? = some context) : c ≠ context := by
    rintro rfl
    exact apart about
  cases closing with
  | nothing => rfl
  | finish context =>
    exact (ContextStore.get?_finish session.contexts context c).trans (if_neg (other rfl))
  | withdraw ticket =>
    exact (ContextStore.get?_release session.contexts ticket c).trans (if_neg (other rfl))

theorem callers_close {closing : Closing} {c : Nat} (stays : closing ≠ .finish c)
    (session : Session P) : ((closing.close session).contexts.get? c).map (·.caller) =
      (session.contexts.get? c).map (·.caller) := by
  cases closing with
  | nothing => rfl
  | finish context =>
    have apart : (finish context).context? ≠ some c := fun same => stays (by cases same; rfl)
    rw [get?_close apart]
  | withdraw ticket => exact (Session.Local.withdrawn session ticket).callers c

end Closing

/-- A body that is being run: the task that goes on after it, and what is taken back before. -/
structure Frame where
  outer : Task
  closing : Closing

/-- A moment of a run, the innermost body first. -/
structure Point (P : Type) where
  frames : List Frame
  task : Task
  session : Session P

inductive Move : Point P → Point P → Prop where
  | within (frames : List Frame) {task : Task} {before after : Session P}
      (within : Session.Local task before after) :
      Move ⟨frames, task, before⟩ ⟨frames, task, after⟩
  | defer (frames : List Frame) (task : Task) (session : Session P) (name : String)
      (body : List (Step P)) :
      Move ⟨frames, task, session⟩ ⟨frames, task, session.defer task name body⟩
  | inside (frames : List Frame) {task : Task} (session : Session P) (inner : Task)
      (seen : inner.context = task.context ∨ inner.context = none) :
      Move ⟨frames, task, session⟩ ⟨⟨task, .nothing⟩ :: frames, inner, session⟩
  | enter (frames : List Frame) {task : Task} {session : Session P} (inner : Task)
      (ctx : RequestContext P) (own : inner.context = some session.contexts.nextContext)
      (origin : ctx.stack = [] ∨ ∃ c, session.contexts.get? c = some ctx) :
      Move ⟨frames, task, session⟩ ⟨⟨task, .finish session.contexts.nextContext⟩ :: frames, inner,
        { session with contexts := (session.contexts.enter ctx).2 }⟩
  | resume (frames : List Frame) {task : Task} {session : Session P} {name : String}
      {work : Deferred P} (kept : Table.find? name session.deferred = some work) :
      Move ⟨frames, task, session⟩ ⟨⟨task, .of work.captured⟩ :: frames, work.captured.resume task,
        { session with deferred := Table.erase name session.deferred }⟩
  | route (frames : List Frame) {task : Task} {before entered : Session P} {ticket : Ticket}
      (own : task.context = some ticket.context) (within : Session.Local task before entered) :
      Move ⟨frames, task, before⟩ ⟨⟨task, .withdraw ticket⟩ :: frames, task, entered⟩
  /-- The innermost body is through. -/
  | leave (frames : List Frame) (outer task : Task) (closing : Closing) (session : Session P) :
      Move ⟨⟨outer, closing⟩ :: frames, task, session⟩ ⟨frames, outer, closing.close session⟩

abbrev Leads : Point P → Point P → Prop := Relation.ReflTransGen Move

/-- A moment in the run of some program, which starts without contexts and with some router. -/
def Reached (point : Point P) : Prop := ∃ router, Leads ⟨[], .bare, { router }⟩ point

theorem Reached.leads {first later : Point P} (reached : Reached first)
    (leads : Leads first later) : Reached later := by
  obtain ⟨router, start⟩ := reached
  exact ⟨router, start.trans leads⟩

theorem Move.routed (frames : List Frame) {task : Task} {before entered : Session P}
    {context : Nat} {key : String} {pool : Option (PoolHandle P)} {ticket : Ticket}
    (own : task.context = some context)
    (pushed : before.contexts.push context key pool = some (ticket, entered.contexts))
    (held : entered.held = before.held) (deferred : entered.deferred = before.deferred) :
    Move ⟨frames, task, before⟩ ⟨⟨task, .withdraw ticket⟩ :: frames, task, entered⟩ := by
  have issued := (ContextStore.push_spec pushed).1
  refine .route frames (own.trans (by rw [issued])) (.pushed own pushed ?_ deferred)
  exact fun other member => .inl (held ▸ member)

theorem Move.handed (frames : List Frame) {task captured inner : Task} {session : Session P}
    {contexts : ContextStore P} (capture : task.capture session.contexts = (captured, contexts))
    (same : inner.context = captured.context) :
    Move ⟨frames, task, session⟩
      ⟨⟨task, .of captured⟩ :: frames, inner, { session with contexts }⟩ := by
  rcases Task.capture_cases capture with ⟨nothing, rfl⟩ | ⟨c, ctx, live, copied, rfl⟩
  · rw [Closing.of, nothing]
    exact .inside frames session inner (.inr (same.trans nothing))
  · rw [Closing.of, copied]
    exact .enter frames inner ctx (same.trans copied) (.inr ⟨c, live⟩)

theorem Move.body {frames : List Frame} {task inner : Task} {closing : Closing}
    {before begun after : Session P}
    (begins : Move ⟨frames, task, before⟩ ⟨⟨task, closing⟩ :: frames, inner, begun⟩)
    (run : Leads ⟨⟨task, closing⟩ :: frames, inner, begun⟩
      ⟨⟨task, closing⟩ :: frames, inner, after⟩) :
    Leads ⟨frames, task, before⟩ ⟨frames, task, closing.close after⟩ :=
  (Relation.ReflTransGen.head begins run).tail (.leave frames task inner closing after)

theorem Runs.leads {quiet : Prop} {task : Task} {before after : Session P}
    (run : Runs quiet task before after) (frames : List Frame) :
    Leads ⟨frames, task, before⟩ ⟨frames, task, after⟩ := by
  induction run generalizing frames with
  | done task session => exact .refl
  | next first second ihFirst ihSecond => exact (ihFirst frames).trans (ihSecond frames)
  | within within calm => exact .single (.within frames within)
  | defer task session name body => exact .single (.defer frames task session name body)
  | inside inner seen run ih => exact (Move.inside frames _ inner seen).body (ih _)
  | enter inner ctx own origin run ih => exact (Move.enter frames inner ctx own origin).body (ih _)
  | resume kept run ih =>
    rw [← Closing.close_of]
    exact (Move.resume frames kept).body (ih _)
  | route own pushed held deferred run ih =>
    exact (Move.routed frames own pushed held deferred).body (ih _)

/-- Running a body, whatever it does and however it ends, leads on under the same frames. -/
theorem leads_runWithin (setting : Setting P) (allowance : Nat) (frames : List Frame) (task : Task)
    (body : List (Step P)) (session : Session P) :
    Leads ⟨frames, task, session⟩
      ⟨frames, task, (runWithin setting allowance task body session).2⟩ :=
  (follows_runWithin False (fun _ => true) setting allowance task body session False.elim
    False.elim).runs.leads frames

end RowGuard.Script
