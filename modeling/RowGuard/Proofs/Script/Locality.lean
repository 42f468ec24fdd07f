import RowGuard.Proofs.Context.Store
import RowGuard.Proofs.DataSource.Router
import RowGuard.Script.Run
/-!
What a step without a body can reach. It works on the context of its own task and, by tickets and
guards, on contexts that somebody selected in before; no other context notices it.
-/
namespace RowGuard.Script.Session

variable {P : Type}

/-- The tickets a session keeps under names, those of guards among them. -/
def held (session : Session P) : List Ticket :=
  session.tickets.map Prod.snd ++ session.guards.map Prod.snd

/-- What a task may change without running a body. -/
structure Local (task : Task) (before after : Session P) : Prop where
  sound : before.contexts.Sound → after.contexts.Sound
  nextContext : after.contexts.nextContext = before.contexts.nextContext
  callers : ∀ c, (after.contexts.get? c).map (·.caller) = (before.contexts.get? c).map (·.caller)
  apart : ∀ c, task.context ≠ some c → (∀ ticket ∈ before.held, ticket.context ≠ c) →
    after.contexts.get? c = before.contexts.get? c
  held : ∀ ticket ∈ after.held, ticket ∈ before.held ∨ task.context = some ticket.context
  deferred : after.deferred = before.deferred

theorem Local.unchanged {task : Task} {before after : Session P}
    (contexts : after.contexts = before.contexts) (held : after.held = before.held)
    (deferred : after.deferred = before.deferred) : Local task before after where
  sound sound := contexts ▸ sound
  nextContext := by rw [contexts]
  callers c := by rw [contexts]
  apart c _ _ := by rw [contexts]
  held ticket member := .inl (held ▸ member)
  deferred := deferred

theorem Local.refl (task : Task) (session : Session P) : Local task session session :=
  .unchanged rfl rfl rfl

theorem Local.trans {task : Task} {before middle after : Session P}
    (first : Local task before middle) (second : Local task middle after) :
    Local task before after where
  sound sound := second.sound (first.sound sound)
  nextContext := second.nextContext.trans first.nextContext
  callers c := (second.callers c).trans (first.callers c)
  apart c other unheld := by
    have still : ∀ ticket ∈ middle.held, ticket.context ≠ c := by
      intro ticket member same
      rcases first.held ticket member with older | own
      · exact unheld ticket older same
      · exact other (same ▸ own)
    rw [second.apart c other still, first.apart c other unheld]
  held ticket member := by
    rcases second.held ticket member with older | own
    · exact first.held ticket older
    · exact .inr own
  deferred := second.deferred.trans first.deferred

theorem Local.lives {task : Task} {before after : Session P} (within : Local task before after)
    (c : Nat) : (after.contexts.get? c).isSome = (before.contexts.get? c).isSome := by
  have same := congrArg Option.isSome (within.callers c)
  rwa [Option.isSome_map, Option.isSome_map] at same

theorem Local.answer (task : Task) (session : Session P) (word : String) (reply : Reply P) :
    Local task session (session.answer task word reply) :=
  .unchanged rfl rfl rfl

theorem Local.withCatalog (task : Task) (session : Session P) (catalog : DataSource.Catalog) :
    Local task session (session.withCatalog catalog) :=
  .unchanged rfl rfl rfl

theorem Local.remove (task : Task) (session : Session P) (key : String) :
    Local task session (session.remove key).2 :=
  .unchanged rfl rfl rfl

theorem Local.changed {task : Task} {before after : Session P} {context : Nat}
    {change : RequestContext P → RequestContext P}
    (gets : ∀ c, after.contexts.get? c =
      if c = context then (before.contexts.get? c).map change else before.contexts.get? c)
    (caller : ∀ ctx, (change ctx).caller = ctx.caller)
    (known : task.context = some context ∨ ∃ ticket ∈ before.held, ticket.context = context)
    (sound : before.contexts.Sound → after.contexts.Sound)
    (nextContext : after.contexts.nextContext = before.contexts.nextContext)
    (held : ∀ ticket ∈ after.held, ticket ∈ before.held ∨ task.context = some ticket.context)
    (deferred : after.deferred = before.deferred) : Local task before after where
  sound := sound
  nextContext := nextContext
  callers c := by
    rw [gets]
    split
    · rw [Option.map_map]
      exact congrArg (Option.map · _) (funext caller)
    · rfl
  apart c other unheld := by
    rw [gets, if_neg]
    rintro rfl
    rcases known with own | ⟨ticket, member, about⟩
    · exact other own
    · exact unheld ticket member about
  held := held
  deferred := deferred

theorem Local.pushed {task : Task} {before after : Session P} {context : Nat} {key : String}
    {pool : Option (PoolHandle P)} {ticket : Ticket} (own : task.context = some context)
    (pushed : before.contexts.push context key pool = some (ticket, after.contexts))
    (held : ∀ other ∈ after.held, other ∈ before.held ∨ other = ticket)
    (deferred : after.deferred = before.deferred) : Local task before after := by
  obtain ⟨issued, nextContext, -, -, gets⟩ := ContextStore.push_spec pushed
  refine .changed gets (fun _ => rfl) (.inl own) (fun sound => sound.push pushed) nextContext ?_
    deferred
  intro other member
  rcases held other member with older | rfl
  · exact .inl older
  · exact .inr (own.trans (by rw [issued]))

theorem held_insert_ticket {session : Session P} {contexts : ContextStore P} {name : String}
    {ticket other : Ticket}
    (member : other ∈ held { session with
      contexts
      tickets := Table.insert name ticket session.tickets }) :
    other ∈ session.held ∨ other = ticket := by
  rcases List.mem_append.1 member with kept | guard
  · obtain ⟨pair, inserted, rfl⟩ := List.mem_map.1 kept
    rcases Table.mem_of_mem_insert inserted with rfl | older
    · exact .inr rfl
    · exact .inl (List.mem_append_left _ (List.mem_map_of_mem older))
  · exact .inl (List.mem_append_right _ guard)

theorem Local.push (task : Task) (session : Session P) (name key : String)
    (pool : Option (PoolHandle P)) : Local task session (session.push task name key pool).2 := by
  unfold Session.push
  cases own : task.context with
  | none => exact .refl task session
  | some context =>
    rw [Option.bind_some]
    cases pushed : session.contexts.push context key pool with
    | none => exact .refl task session
    | some issue => exact .pushed own pushed (fun _ => held_insert_ticket) rfl

theorem Local.pop (task : Task) (session : Session P) :
    Local task session (session.pop task).2 := by
  unfold Session.pop
  cases own : task.context with
  | none => exact .refl task session
  | some context =>
    exact .changed (ContextStore.get?_pop session.contexts context) (fun _ => rfl) (.inl own)
      (fun sound => sound.pop context) (ContextStore.next_pop session.contexts context).1
      (fun _ member => .inl member) rfl

theorem Local.withdraw {task : Task} {session : Session P} {ticket : Ticket}
    (known : ticket ∈ session.held ∨ task.context = some ticket.context) :
    Local task session (session.withdraw ticket).2 :=
  .changed (ContextStore.get?_release session.contexts ticket) (fun _ => rfl)
    (known.symm.imp_right fun member => ⟨ticket, member, rfl⟩)
    (fun sound => sound.release ticket) (ContextStore.next_release session.contexts ticket).1
    (fun _ member => .inl member) rfl

theorem Local.withdrawn (session : Session P) (ticket : Ticket) :
    Local (Task.bare.inContext ticket.context) session (session.withdraw ticket).2 :=
  .withdraw (.inr rfl)

theorem held_of_find?_ticket {session : Session P} {name : String} {ticket : Ticket}
    (found : Table.find? name session.tickets = some ticket) : ticket ∈ session.held :=
  List.mem_append_left _ (List.mem_map_of_mem (Table.mem_of_find? found))

theorem held_of_find?_guard {session : Session P} {name : String} {ticket : Ticket}
    (found : Table.find? name session.guards = some ticket) : ticket ∈ session.held :=
  List.mem_append_right _ (List.mem_map_of_mem (Table.mem_of_find? found))

theorem Local.release (task : Task) (session : Session P) (name : String) :
    Local task session (session.release name).2 := by
  unfold Session.release
  cases found : Table.find? name session.tickets with
  | none => exact .refl task session
  | some ticket => exact .withdraw (.inl (held_of_find?_ticket found))

theorem Local.dropGuard (task : Task) (session : Session P) (name : String) :
    Local task session (session.dropGuard name).2 := by
  unfold Session.dropGuard
  cases found : Table.find? name session.guards with
  | none => exact .refl task session
  | some ticket =>
    have withdrawn : Local task session (session.withdraw ticket).2 :=
      .withdraw (.inl (held_of_find?_guard found))
    exact {
      sound := withdrawn.sound
      nextContext := withdrawn.nextContext
      callers := withdrawn.callers
      apart := withdrawn.apart
      held := fun other member => .inl (((List.Sublist.refl _).append
        ((Table.erase_sublist name session.guards).map Prod.snd)).subset member)
      deferred := rfl }

theorem selectTenant_eq_ok {session entered : Session P} {factory : PoolFactory P} {task : Task}
    {key : String} {ticket : Ticket} :
    session.selectTenant factory task key = (.ok ticket, entered) ↔
      ∃ router contexts,
        session.router.select factory task session.contexts key = (.ok ticket, router, contexts) ∧
        entered = { session with router, contexts } := by
  unfold selectTenant
  obtain ⟨answer, router, contexts⟩ :=
    session.router.select factory task session.contexts key
  simp only [Prod.mk.injEq, and_assoc]
  constructor
  · rintro ⟨rfl, rfl⟩
    exact ⟨router, contexts, rfl, rfl, rfl, rfl⟩
  · rintro ⟨_, _, rfl, rfl, rfl, rfl⟩
    exact ⟨rfl, rfl⟩

theorem selectTenant_error {session entered : Session P} {factory : PoolFactory P} {task : Task}
    {key : String} {reason : GuardError}
    (refused : session.selectTenant factory task key = (.error reason, entered)) :
    entered = session := by
  unfold selectTenant at refused
  rcases selected : session.router.select factory task session.contexts key with
    ⟨answer, router, contexts⟩
  rw [selected] at refused
  cases refused
  obtain ⟨rfl, rfl⟩ := Router.select_error selected
  rfl

theorem selectTenant_ok {session entered : Session P} {factory : PoolFactory P} {task : Task}
    {key : String} {ticket : Ticket}
    (selected : session.selectTenant factory task key = (.ok ticket, entered)) :
    ∃ context pool, task.context = some context ∧
      session.contexts.push context key (some (.own pool)) = some (ticket, entered.contexts) ∧
      entered.tickets = session.tickets ∧ entered.guards = session.guards ∧
      entered.deferred = session.deferred := by
  obtain ⟨router, contexts, chosen, rfl⟩ := selectTenant_eq_ok.1 selected
  obtain ⟨-, context, pool, own, -, pushed⟩ := Router.select_eq_ok.1 chosen
  exact ⟨context, pool, own, pushed, rfl, rfl, rfl⟩

theorem Local.selectTenant {session entered : Session P} {factory : PoolFactory P} {task : Task}
    {key : String} {ticket : Ticket}
    (selected : session.selectTenant factory task key = (.ok ticket, entered)) :
    Local task session entered := by
  obtain ⟨context, pool, own, pushed, tickets, guards, deferred⟩ := selectTenant_ok selected
  refine .pushed own pushed (fun other member => .inl ?_) deferred
  rwa [Session.held, tickets, guards] at member

/-- Where the pool cannot be selected, a routed body is not run; otherwise the selection is withdrawn
from what the body left. -/
theorem inRoute_cases (setting : Setting P) (run : Runner P) (task : Task) (key : String)
    (body : List (Step P)) (session : Session P) :
    (∃ reason, session.inRoute setting run task key body = (.error reason, session)) ∨
      ∃ ticket entered, session.selectTenant setting.factory task key = (.ok ticket, entered) ∧
        session.inRoute setting run task key body =
          (.ok (run task body entered).1, ((run task body entered).2.withdraw ticket).2) := by
  unfold inRoute
  rcases selected : session.selectTenant setting.factory task key with ⟨reason | ticket, entered⟩
  · cases selectTenant_error selected
    exact .inl ⟨reason, rfl⟩
  · exact .inr ⟨ticket, entered, rfl, rfl⟩

theorem Local.change (task : Task) (session : Session P) (factory : PoolFactory P)
    (name key : String) : Local task session (session.change factory task name key).2 := by
  unfold Session.change
  rcases selected : session.selectTenant factory task key with ⟨reason | ticket, entered⟩
  · cases selectTenant_error selected
    exact .refl task session
  · obtain ⟨context, pool, own, pushed, -⟩ := selectTenant_ok selected
    have issued := (ContextStore.push_spec pushed).1
    have dropped := (Local.selectTenant selected).trans (.dropGuard task entered name)
    exact {
      sound := dropped.sound
      nextContext := dropped.nextContext
      callers := dropped.callers
      apart := dropped.apart
      held := by
        intro other member
        rcases List.mem_append.1 member with kept | guard
        · exact dropped.held other (List.mem_append_left _ kept)
        · obtain ⟨pair, inserted, rfl⟩ := List.mem_map.1 guard
          rcases Table.mem_of_mem_insert inserted with rfl | older
          · exact .inr (own.trans (by rw [issued]))
          · exact dropped.held pair.2 (List.mem_append_right _ (List.mem_map_of_mem older))
      deferred := dropped.deferred }

end RowGuard.Script.Session
