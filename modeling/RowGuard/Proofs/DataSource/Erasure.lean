import RowGuard.Proofs.DataSource.Routing
/-!
Changes that fail can be erased from a run. Until a change has its pool it has changed nothing but
its own record, so whatever went on beside it would have gone on without it; and once it has its
pool it does not fail.
-/
namespace RowGuard

variable {P : Type}

def RoutingEvent.isOf (n : Nat) : RoutingEvent P → Bool
  | .begin m _ _ => m == n
  | .advance m _ => m == n
  | .abandon m => m == n
  | _ => false

namespace Routing

variable {h : Routing P} {event : RoutingEvent P} {n m : Nat}

structure Regular (h : Routing P) : Prop where
  ascending : h.router.registry.pools.Ascending
  visible : ∀ key pool, h.router.registry.get? key = some pool → ¬Text.isBlankText key = true
  asked : ∀ n call, h.calls n = some call → ¬Text.isBlankText call.key = true
  live : ∀ n call, h.calls n = some call → (h.contexts.get? call.context).isSome

theorem Regular.initial (catalog : DataSource.Catalog) (defaultPool : Option P) :
    (initial catalog defaultPool).Regular where
  ascending := .nil
  visible _ _ registered := nomatch registered
  asked _ _ under := nomatch under
  live _ _ under := nomatch under

theorem Regular.step (regular : h.Regular) (event : RoutingEvent P) : (h.step event).Regular where
  ascending := ascending_step regular.ascending event
  visible key pool registered := by
    rcases registered_step regular.ascending registered with older | ⟨source, builds⟩
    · exact regular.visible key pool older
    · obtain ⟨n, factory, context, -, under, -⟩ := builds
      exact regular.asked n _ under
  asked n call under := by
    rcases calls_step under with ⟨older, -⟩ | ⟨-, admitted, -⟩ | ⟨factory, stage, -, before, -⟩
    · exact regular.asked n call older
    · exact (Router.contextFor_eq_ok.1 admitted).1
    · exact regular.asked n ⟨call.context, call.key, stage⟩ before
  live n call under := by
    rcases calls_step under with ⟨older, other⟩ | ⟨rfl, admitted, -⟩ | ⟨factory, stage, rfl, before,
      -⟩
    · exact lives_step (regular.live n call older) other
    · exact lives_step (Router.contextFor_eq_ok.1 admitted).2.2 (by simp)
    · exact lives_step (regular.live n ⟨call.context, call.key, stage⟩ before) (by simp)

theorem Regular.run (regular : h.Regular) (events : List (RoutingEvent P)) :
    (h.run events).Regular := by
  induction events generalizing h with
  | nil => exact regular
  | cons event rest ih => exact ih (regular.step event)

/-! ## A change beside others -/

theorem drop_keep_of_ne (other : m ≠ n) (h : Routing P) (call : Call P) :
    (h.drop n).keep m call = (h.keep m call).drop n := by
  simp only [drop, keep, Function.update_comm other]

theorem drop_drop_comm (h : Routing P) (n m : Nat) : (h.drop n).drop m = (h.drop m).drop n := by
  by_cases same : m = n
  · rw [same]
  · simp only [drop, Function.update_comm same]

theorem begin_drop (other : m ≠ n) (h : Routing P) (context : Option Nat) (key : String) :
    (h.drop n).begin m context key =
      ((h.begin m context key).1, (h.begin m context key).2.drop n) := by
  have same : (h.drop n).contexts = h.contexts := rfl
  cases admitted : Router.contextFor { context } h.contexts key with
  | error reason =>
    rw [begin_refused (h := h) admitted, begin_refused (h := h.drop n) admitted]
  | ok c =>
    rw [begin_admitted (h := h) admitted, begin_admitted (h := h.drop n) admitted,
      drop_keep_of_ne other]
    rfl

theorem resume_drop (other : m ≠ n) (h : Routing P) (factory : PoolFactory P) (call : Call P) :
    (h.drop n).resume m factory call =
      ((h.resume m factory call).1, (h.resume m factory call).2.drop n) := by
  obtain ⟨context, key, stage⟩ := call
  have same : (h.drop n).router = h.router := rfl
  cases stage with
  | asked =>
    simp only [resume, same, drop_keep_of_ne other]
    cases h.router.consult key <;> rfl
  | listed source =>
    simp only [resume, same, drop_keep_of_ne other]
    rcases h.router.obtain factory key source with ⟨_ | _, _⟩ <;> rfl
  | ready pool => rfl

theorem advance_drop (other : m ≠ n) (h : Routing P) (factory : PoolFactory P) :
    (h.drop n).advance m factory =
      ((h.advance m factory).1, (h.advance m factory).2.drop n) := by
  have same : (h.drop n).calls m = h.calls m := (calls_drop h n m).trans (if_neg other)
  rw [advance, advance, same]
  cases h.calls m with
  | none => rfl
  | some call =>
    dsimp only
    rw [drop_drop_comm, resume_drop other]

/-- What is not a step of a change goes on without it as it does beside it. -/
theorem step_drop (other : event.isOf n = false) :
    (h.drop n).step event = (h.step event).drop n := by
  cases event with
  | begin m context key =>
    exact congrArg Prod.snd (begin_drop (ne_of_beq_false other) h context key)
  | advance m factory => exact congrArg Prod.snd (advance_drop (ne_of_beq_false other) h factory)
  | abandon m => exact drop_drop_comm h n m
  | finish context =>
    have calls : (fun k => ((h.drop n).calls k).filter (·.context ≠ context)) =
        Function.update (fun k => (h.calls k).filter (·.context ≠ context)) n none := by
      funext k
      rw [calls_drop, Function.update_apply]
      split <;> rfl
    exact congrArg (Routing.mk h.router (h.contexts.finish context)) calls
  | _ => rfl

/-- A change that is over, or that has its pool. -/
def Settled (h : Routing P) (n : Nat) : Prop :=
  ∀ call, h.calls n = some call → ∃ pool, call.stage = .ready pool

theorem Settled.step (settled : h.Settled n)
    (unbegun : ∀ context key, event ≠ .begin n context key) : (h.step event).Settled n := by
  intro call under
  rcases calls_step under with ⟨older, -⟩ | ⟨begun, -⟩ | ⟨factory, stage, -, before, learns⟩
  · exact settled call older
  · exact absurd begun (unbegun _ _)
  · obtain ⟨pool, ready⟩ := settled _ before
    cases ready
    cases learns

theorem Settled.run (settled : h.Settled n) {events : List (RoutingEvent P)}
    (unbegun : ∀ context key, .begin n context key ∉ events) : (h.run events).Settled n := by
  induction events generalizing h with
  | nil => exact settled
  | cons event rest ih =>
    have later : ∀ context key, .begin n context key ∉ rest := fun context key member =>
      unbegun context key (List.mem_cons_of_mem event member)
    refine ih (settled.step fun context key same => unbegun context key ?_) later
    rw [same]
    exact List.mem_cons_self

theorem own_step (own : event.isOf n = true)
    (unbegun : ∀ context key, event ≠ .begin n context key) :
    (h.step event).drop n = h.drop n ∨ (h.step event).Settled n := by
  cases event with
  | begin m context key => exact absurd (by rw [beq_iff_eq.1 own]) (unbegun context key)
  | abandon m =>
    obtain rfl : m = n := beq_iff_eq.1 own
    exact .inl (drop_drop h m)
  | advance m factory =>
    obtain rfl : m = n := beq_iff_eq.1 own
    have settled {call : Option (Call P)}
        (known : ∀ c, call = some c → ∃ pool, c.stage = .ready pool)
        (router : Router P) (contexts : ContextStore P) :
        Settled ⟨router, contexts, Function.update h.calls m call⟩ m := by
      exact fun c under => known c ((Function.update_self m call h.calls).symm.trans under)
    rw [step]
    generalize result : h.advance m factory = result
    cases result ▸ h.progress m factory with
    | absent => exact .inl rfl
    | unlisted => exact .inl (drop_drop h m)
    | listed => exact .inl (drop_keep h m _)
    | failed => exact .inl (drop_drop h m)
    | ended => exact .inl (drop_drop h m)
    | selected => exact .inr (settled (by simp) _ _)
    | reused => exact .inr (settled (by simp) _ _)
    | built => exact .inr (settled (by simp) _ _)
  | _ => cases own

/-- What goes on beside a change goes on as without it, or the change has come to its pool. -/
theorem run_drop {events : List (RoutingEvent P)}
    (unbegun : ∀ context key, .begin n context key ∉ events) :
    (h.run events).drop n = (h.drop n).run (events.filter fun event => !event.isOf n) ∨
      (h.run events).Settled n := by
  induction events generalizing h with
  | nil => exact .inl rfl
  | cons event rest ih =>
    have later : ∀ context key, .begin n context key ∉ rest := fun context key member =>
      unbegun context key (List.mem_cons_of_mem event member)
    have now : ∀ context key, event ≠ .begin n context key := fun context key same =>
      unbegun context key (same ▸ List.mem_cons_self)
    cases own : event.isOf n with
    | false =>
      rw [List.filter_cons_of_pos (by rw [own]; rfl)]
      rcases ih (h := h.step event) later with erased | settled
      · refine .inl (erased.trans ?_)
        rw [← step_drop own]
        rfl
      · exact .inr settled
    | true =>
      rw [List.filter_cons_of_neg (by simp [own])]
      rcases own_step (h := h) own now with same | settled
      · rcases ih (h := h.step event) later with erased | settled
        · exact .inl (erased.trans (by rw [same]))
        · exact .inr settled
      · exact .inr (settled.run later)

/-- A change that fails might as well not have been begun. -/
theorem failure_erased (regular : h.Regular) (free : h.calls n = none) {context : Option Nat}
    {key : String} {events : List (RoutingEvent P)}
    (unbegun : ∀ context key, .begin n context key ∉ events) {factory : PoolFactory P}
    {reason : GuardError}
    (failed : ((h.run (.begin n context key :: events)).advance n factory).1 =
      some (.error reason)) :
    ((h.run (.begin n context key :: events)).advance n factory).2 =
      h.run (events.filter fun event => !event.isOf n) := by
  have begun : (h.begin n context key).2.drop n = h := by
    cases admitted : Router.contextFor { context } h.contexts key with
    | error reason => rw [begin_refused admitted, drop_eq_self free]
    | ok c => rw [begin_admitted admitted, drop_keep, drop_eq_self free]
  have erased : (h.run (.begin n context key :: events)).drop n =
        h.run (events.filter fun event => !event.isOf n) ∨
      (h.run (.begin n context key :: events)).Settled n := by
    have beside := run_drop (h := (h.begin n context key).2) unbegun
    rwa [begun] at beside
  have regular : (h.run (.begin n context key :: events)).Regular := regular.run _
  generalize h.run (.begin n context key :: events) = now at *
  -- Only where there is no pool yet, a step can fail.
  have unsettled {context : Nat} {key : String} {stage : Stage P}
      (under : now.calls n = some ⟨context, key, stage⟩) (poolless : ∀ pool, stage ≠ .ready pool) :
      now.drop n = h.run (events.filter fun event => !event.isOf n) := by
    refine erased.resolve_right fun settled => ?_
    obtain ⟨pool, ready⟩ := settled _ under
    exact poolless pool ready
  generalize result : now.advance n factory = result at failed
  cases result ▸ now.progress n factory with
  | unlisted asked => exact unsettled asked (by simp)
  | failed listed => exact unsettled listed (by simp)
  | ended ready gone =>
    have live := regular.live n _ ready
    rw [gone] at live
    cases live
  | _ => cases failed

end Routing

end RowGuard
