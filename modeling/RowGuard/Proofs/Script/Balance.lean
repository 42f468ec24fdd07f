import RowGuard.Proofs.Script.Ownership
/-!
Routing takes back what it selected and nothing else, whatever the routed body does to the
selections meanwhile. Where only routing selects, nothing is left behind.
-/
namespace RowGuard.Script

variable {P : Type} {quiet : Prop} {task : Task} {before after : Session P}

theorem get?_withdraw_pushed {entered session : Session P} {context : Nat} {key : String}
    {pool : Option (PoolHandle P)} {ticket : Ticket} (sound : before.contexts.Sound)
    (pushed : before.contexts.push context key pool = some (ticket, entered.contexts)) {c : Nat}
    {ctx : RequestContext P} (live : before.contexts.get? c = some ctx)
    (same : session.contexts.get? c = entered.contexts.get? c) :
    (session.withdraw ticket).2.contexts.get? c = some ctx := by
  obtain ⟨rfl, -, -, -, gets⟩ := ContextStore.push_spec pushed
  refine (ContextStore.get?_release session.contexts _ c).trans ?_
  rw [same, gets, live]
  dsimp only
  split
  · have absent : ∀ s ∈ ctx.stack, s.entry ≠ before.contexts.nextEntry :=
      fun s member => Nat.ne_of_lt (sound.entries c ctx live s member)
    have taken : Selection.withdraw before.contexts.nextEntry
        (ctx.stack ++ [⟨before.contexts.nextEntry, key, pool⟩]) = some (ctx.stack ++ []) :=
      Selection.withdraw_between rfl absent
    simp only [Option.map_some, taken, Option.getD_some, List.append_nil]
  · rfl

/-- Where only routing selects, a run leaves every context as it is that no kept work owns. -/
theorem Runs.restores (on : quiet) (run : Runs quiet task before after) (frames : List Frame)
    (orderly : Point.Orderly ⟨frames, task, before⟩) {c : Nat} {ctx : RequestContext P}
    (live : before.contexts.get? c = some ctx) (free : c ∉ before.captives) :
    after.contexts.get? c = some ctx := by
  have old := orderly.sound.contexts c ctx live
  induction run generalizing frames ctx with
  | done task session => exact live
  | next first second ihFirst ihSecond =>
    have middle := ihFirst frames orderly live free old
    have leads := first.leads frames
    have unowned (captive : c ∈ Session.captives _) : False := free (leads.captive old captive)
    exact ihSecond frames (orderly.leads leads) middle unowned
      (Nat.lt_of_lt_of_le old leads.nextContext_le)
  | within within calm => rw [calm on, live]
  | defer task session name body => rw [get?_defer old, live]
  | inside inner seen run ih =>
    exact ih _ (orderly.move (.inside frames _ inner seen)) live free old
  | @enter task before after inner ctx' own origin run ih =>
    have begun := orderly.move (.enter frames inner ctx' own origin)
    have entered : (before.contexts.enter ctx').2.get? c = some ctx :=
      (ContextStore.get?_enter_of_lt old).trans live
    have still := ih _ begun entered free (Nat.lt_succ_of_lt old)
    exact (ContextStore.get?_finish after.contexts _ c).trans
      ((if_neg (Nat.ne_of_lt old)).trans still)
  | @resume task before after name work kept run ih =>
    have begun := orderly.move (.resume frames kept)
    have still := ih _ begun live (fun captive => free (Session.captive_of_erase captive)) old
    rw [← Closing.close_of, Closing.of]
    cases captured : work.captured.context with
    | none => exact still
    | some context =>
      refine (ContextStore.get?_finish after.contexts context c).trans ((if_neg ?_).trans still)
      rintro rfl
      exact free (Session.captive_of_find? kept captured)
  | @route task before entered after context key pool ticket own pushed held deferred run ih =>
    have begun := orderly.move (.routed frames own pushed held deferred)
    obtain ⟨-, nextContext, -, -, gets⟩ := ContextStore.push_spec pushed
    have present : (entered.contexts.get? c).isSome := by
      rw [gets, live]
      split <;> rfl
    obtain ⟨selected, found⟩ := Option.isSome_iff_exists.1 present
    have still := ih _ begun found (by rwa [Session.captives, deferred]) (nextContext ▸ old)
    exact get?_withdraw_pushed orderly.sound pushed live (still.trans found.symm)

theorem contexts_settled (task : Task) (word : String) (reply : Outcome → Reply P)
    (result : Outcome × Session P) :
    (Session.settled task word reply result).2.contexts = result.2.contexts := by
  obtain ⟨outcome, session⟩ := result
  cases outcome <;> rfl

/-- Routing is balanced, whatever the routed body does and however it ends. Where the pool cannot
be selected, the body is not run. Otherwise one entry stands on top of the selections while the
body runs, and afterwards the submitting context has what the body left there without that entry.
A body that selects by routing alone leaves the context as it was. -/
theorem routing_is_balanced {frames : List Frame} {session : Session P}
    (reached : Reached ⟨frames, task, session⟩) (setting : Setting P) (allowance : Nat)
    (key : String) (body : List (Step P)) :
    (∀ reason refused, session.selectTenant setting.factory task key = (.error reason, refused) →
      perform setting (runWithin setting allowance) task (.route key body) session =
        (.ok, session.answer task "route" (.refused reason))) ∧
    ∀ ticket entered, session.selectTenant setting.factory task key = (.ok ticket, entered) →
      ∃ c ctx own left, task.context = some c ∧ session.contexts.get? c = some ctx ∧
        own.key = key ∧ (∀ s ∈ ctx.stack, s.entry ≠ own.entry) ∧
        entered.contexts.get? c = some { ctx with stack := ctx.stack ++ [own] } ∧
        (runWithin setting allowance task body entered).2.contexts.get? c = some left ∧
        (perform setting (runWithin setting allowance) task (.route key body)
          session).2.contexts.get? c =
            some { left with stack := left.stack.filter (·.entry ≠ own.entry) } ∧
        ∀ calls, Step.routeOnly calls body = true → session.KeepsRouting calls →
          (perform setting (runWithin setting allowance) task (.route key body)
            session).2.contexts.get? c = some ctx := by
  have orderly := reached.orderly
  refine ⟨fun reason left refused => ?_, fun ticket entered selected => ?_⟩
  · cases Session.selectTenant_error refused
    simp only [perform, Session.inRoute, refused]
    rfl
  · obtain ⟨context, pool, own, pushed, tickets, guards, deferred⟩ :=
      Session.selectTenant_ok selected
    have held : entered.held = session.held := by rw [Session.held, Session.held, tickets, guards]
    have begun := orderly.move (.routed frames own pushed held deferred)
    obtain ⟨ctx, live⟩ := Option.isSome_iff_exists.1
      (orderly.lives task List.mem_cons_self context own)
    obtain ⟨issued, -, -, -, gets⟩ := ContextStore.push_spec pushed
    have through := begun.leads (leads_runWithin setting allowance _ task body entered)
    obtain ⟨left, found⟩ := Option.isSome_iff_exists.1
      (through.lives task List.mem_cons_self context own)
    have after : (perform setting (runWithin setting allowance) task (.route key body)
        session).2.contexts =
          ((runWithin setting allowance task body entered).2.withdraw ticket).2.contexts := by
      simp only [perform, Session.inRoute, selected, contexts_settled]
    have free : context ∉ session.captives := fun captive =>
      orderly.apart context captive (.inl ⟨task, List.mem_cons_self, own⟩)
    refine ⟨context, ctx, ⟨session.contexts.nextEntry, key, some (.own pool)⟩, left, own, live, rfl,
      ?_, ?_, found, ?_, fun calls obeys keeps => ?_⟩
    · exact fun s member => Nat.ne_of_lt (orderly.sound.entries context ctx live s member)
    · rw [gets, if_pos rfl, live, Option.map_some]
    · rw [after, issued]
      refine (ContextStore.get?_release _ _ context).trans ?_
      rw [if_pos rfl, found, Option.map_some,
        Selection.withdraw_eq_filter (through.sound.distinct context left found)]
    · exact ((follows_runWithin True calls setting allowance).perform setting task (.route key body)
        session (fun _ => obeys) (fun _ => keeps)).runs.restores trivial frames orderly live free

def oneRequest : Session Nat where
  contexts := (ContextStore.start {} default).2
  router := { registry := ⟨[("5", 50), ("6", 60)]⟩ }

theorem reached_oneRequest : Reached ⟨[⟨.bare, .finish 0⟩], Task.bare.inContext 0, oneRequest⟩ :=
  ⟨oneRequest.router, .single (.enter [] _ { caller := default } rfl (.inl rfl))⟩

/-- A route within a route, and a failure after it. -/
theorem routing_is_balanced_nested :
    Reached ⟨[⟨.bare, .finish 0⟩], Task.bare.inContext 0, oneRequest⟩ ∧
      (perform { factory := fun created _ => .ok created }
        (runWithin { factory := fun created _ => .ok created } 3) (Task.bare.inContext 0)
        (.route "5" [.route "6" [.observe], .fail "no"]) oneRequest).2.contexts.get? 0 =
          some { caller := default } := by
  refine ⟨reached_oneRequest, ?_⟩
  obtain ⟨c, ctx, own, left, works, live, -, -, -, -, -, restored⟩ :=
    (routing_is_balanced reached_oneRequest { factory := fun created _ => .ok created } 3 "5"
      [.route "6" [.observe], .fail "no"]).2 _ _ rfl
  cases works
  cases live
  exact restored (fun _ => false) rfl fun kept member => nomatch member

end RowGuard.Script
