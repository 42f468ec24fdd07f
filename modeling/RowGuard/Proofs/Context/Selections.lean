import RowGuard.Proofs.Context.History
import RowGuard.Proofs.Context.Store
/-!
Whole runs on contexts: whatever is started, copied, replaced, ended, pushed, popped and released,
and in whatever order, every stack is what the history of the events says, and no ticket reaches
further than its own entry.
-/
namespace RowGuard

/-- The contexts after some events, the tickets they answered with, and what has been seen to come
off a stack. -/
structure ContextRun (P : Type) where
  store : ContextStore P := {}
  tickets : List Ticket := []
  removed : List (Nat × Nat) := []

namespace ContextRun

variable {P : Type}

/-- Numbers of the entries that were on the stack of a context and are not any more. -/
def gone (before after : ContextStore P) (c : Nat) : List Nat :=
  match before.get? c, after.get? c with
  | some ctx, some new =>
    (ctx.stack.map (·.entry)).filter fun entry => entry ∉ new.stack.map (·.entry)
  | _, _ => []

def take (h : ContextRun P) (context : Nat) (after : ContextStore P) : ContextRun P :=
  { h with
    store := after
    removed := h.removed ++ (gone h.store after context).map (context, ·) }

def finish (h : ContextRun P) (context : Nat) : ContextRun P :=
  { h with store := h.store.finish context }

def finishAny (h : ContextRun P) : Option Nat → ContextRun P
  | none => h
  | some context => h.finish context

/-- Carries out one event. Nothing happens where its ticket does not exist. -/
def step (h : ContextRun P) : ContextEvent P → ContextRun P
  | .start caller replaced =>
    { h with store := (h.store.start caller).2 : ContextRun P }.finishAny replaced
  | .copy source replaced =>
    match h.store.copy source with
    | none => h
    | some (_, store) => { h with store : ContextRun P }.finishAny replaced
  | .finish context => h.finish context
  | .push context key pool =>
    match h.store.push context key pool with
    | none => h
    | some (ticket, store) => { h with store, tickets := h.tickets ++ [ticket] }
  | .pop context => h.take context (h.store.pop context).2
  | .release issue =>
    match h.tickets[issue]? with
    | none => h
    | some ticket => h.take ticket.context (h.store.release ticket).2

def of (events : List (ContextEvent P)) : ContextRun P := events.foldl step {}

theorem gone_self (store : ContextStore P) (c : Nat) : gone store store c = [] := by
  rw [gone]
  split
  · next before after =>
    cases before.symm.trans after
    rw [List.filter_eq_nil_iff]
    simp
  · rfl

theorem take_self (h : ContextRun P) (context : Nat) : h.take context h.store = h := by
  rw [take, gone_self, List.map_nil, List.append_nil]

theorem gone_filter {before after : ContextStore P} {c entry : Nat} {ctx : RequestContext P}
    (live : before.get? c = some ctx)
    (taken : after.get? c = some { ctx with stack := ctx.stack.filter (·.entry ≠ entry) })
    (distinct : (ctx.stack.map (·.entry)).Nodup) (there : entry ∈ ctx.stack.map (·.entry)) :
    gone before after c = [entry] := by
  have off (e : Nat) (member : e ∈ ctx.stack.map (·.entry)) :
      decide (e ∉ (ctx.stack.filter (·.entry ≠ entry)).map (·.entry)) = (e == entry) := by
    obtain ⟨s, on, rfl⟩ := List.mem_map.1 member
    rw [beq_eq_decide, decide_eq_decide, not_iff_comm, List.mem_map]
    constructor
    · exact fun other => ⟨s, List.mem_filter.2 ⟨on, decide_eq_true other⟩, rfl⟩
    · rintro ⟨t, kept, same⟩
      exact same ▸ of_decide_eq_true (List.mem_filter.1 kept).2
  simp only [gone, live, taken]
  rw [List.filter_congr off, List.filter_beq, List.count_eq_one_of_mem distinct there]
  rfl

/-- The contexts are those of the history, each with the stack it must have. -/
structure Follows (h : ContextRun P) (r : ContextHistory P) : Prop where
  sound : h.store.Sound
  nextContext : h.store.nextContext = r.contexts
  nextEntry : h.store.nextEntry = r.pushes
  tickets : h.tickets = r.issued.map Prod.fst
  removed : h.removed = r.removals
  standing : ∀ c,
    (h.store.get? c).map (·.stack) = if r.Lives c then some (r.recorded c) else none

variable {h : ContextRun P} {r : ContextHistory P} {c : Nat} {ctx : RequestContext P}

namespace Follows

theorem empty : Follows ({} : ContextRun P) {} where
  sound := .empty
  nextContext := rfl
  nextEntry := rfl
  tickets := rfl
  removed := rfl
  standing _ := rfl

theorem lives (follows : h.Follows r) (live : h.store.get? c = some ctx) : r.Lives c := by
  have stack := follows.standing c
  rw [live] at stack
  by_contra ended
  rw [if_neg ended] at stack
  cases stack

theorem recalls (follows : h.Follows r) (live : h.store.get? c = some ctx) :
    ctx.stack = r.recorded c := by
  have stack := follows.standing c
  rw [live, if_pos (follows.lives live)] at stack
  exact Option.some.inj stack

theorem get?_of_lives (follows : h.Follows r) (lives : r.Lives c) :
    ∃ ctx, h.store.get? c = some ctx := by
  have stack := follows.standing c
  rw [if_pos lives] at stack
  obtain ⟨ctx, live, -⟩ := Option.map_eq_some_iff.1 stack
  exact ⟨ctx, live⟩

theorem get?_of_not_lives (follows : h.Follows r) (ended : ¬r.Lives c) :
    h.store.get? c = none := by
  have stack := follows.standing c
  rw [if_neg ended] at stack
  exact Option.map_eq_none_iff.1 stack

theorem add (follows : h.Follows r) {f : ContextFact P} {after : ContextRun P}
    (sound : after.store.Sound)
    (nextContext : after.store.nextContext = h.store.nextContext + f.starts.length)
    (nextEntry : after.store.nextEntry = h.store.nextEntry + f.issues.length)
    (tickets : after.tickets = h.tickets ++ f.issues.map Prod.fst)
    (removed : after.removed = h.removed ++ f.removals)
    (standing : ∀ c, (after.store.get? c).map (·.stack) =
      if (r.add f).Lives c then some ((r.add f).recorded c) else none) :
    after.Follows (r.add f) where
  sound := sound
  nextContext := by rw [nextContext, follows.nextContext, ContextHistory.contexts_add]
  nextEntry := by rw [nextEntry, follows.nextEntry, ContextHistory.pushes_add]
  tickets := by rw [tickets, follows.tickets, ContextHistory.issued_add, List.map_append]
  removed := by rw [removed, follows.removed, ContextHistory.removals_add]
  standing := standing

theorem entered (follows : h.Follows r) (ordered : r.Ordered)
    (entries : ∀ s ∈ ctx.stack, s.entry < h.store.nextEntry)
    (distinct : (ctx.stack.map Selection.entry).Nodup) :
    Follows { h with store := (h.store.enter ctx).2 }
      (r.add (.entered r.contexts ctx.stack)) := by
  refine follows.add (follows.sound.enter entries distinct) rfl rfl (List.append_nil _).symm
    (List.append_nil _).symm fun c => ?_
  simp only [ContextStore.get?_enter, follows.nextContext]
  by_cases new : c = r.contexts
  · rw [if_pos new, new, ordered.recorded_entered, if_pos (ordered.lives_entered.2 (.inl rfl))]
    rfl
  · rw [if_neg new, follows.standing, ContextHistory.recorded_apart (Ne.symm new)]
    simp only [ordered.lives_entered, new, false_or]

theorem finish (follows : h.Follows r) (context : Nat) :
    (h.finish context).Follows (r.leave context) := by
  have standing (c : Nat) : ((h.store.finish context).get? c).map (·.stack) =
      if c ≠ context ∧ r.Lives c then some (r.recorded c) else none := by
    rw [ContextStore.get?_finish]
    by_cases ending : c = context
    · simp [ending]
    · simpa [ending] using follows.standing c
  have sound := follows.sound.finish context
  rw [ContextHistory.leave]
  split
  · refine follows.add sound rfl rfl (List.append_nil _).symm (List.append_nil _).symm fun c => ?_
    simp only [ContextHistory.lives_ended, ContextHistory.recorded_ended]
    exact standing c
  · next ended =>
    have other (c : Nat) : c ≠ context ∧ r.Lives c ↔ r.Lives c :=
      and_iff_right_of_imp fun live same => ended (same ▸ live)
    simp only [other] at standing
    exact { follows with sound, standing }

theorem finishAny (follows : h.Follows r) :
    (replaced : Option Nat) → (h.finishAny replaced).Follows (r.leaveAny replaced)
  | none => follows
  | some context => follows.finish context

theorem start (follows : h.Follows r) (ordered : r.Ordered) (caller : Caller) :
    Follows { h with store := (h.store.start caller).2 } (r.add (.entered r.contexts [])) := by
  have nothing : ∀ s ∈ ({ caller } : RequestContext P).stack, s.entry < h.store.nextEntry :=
    fun _ member => nomatch member
  exact follows.entered ordered nothing .nil

theorem copy (follows : h.Follows r) (ordered : r.Ordered) (live : h.store.get? c = some ctx) :
    Follows { h with store := (h.store.enter ctx).2 }
      (r.add (.entered r.contexts (r.recorded c))) := by
  rw [← follows.recalls live]
  exact follows.entered ordered (follows.sound.entries c ctx live)
    (follows.sound.distinct c ctx live)

/-- A change of one live stack, put down as one fact about its context. -/
theorem changed (follows : h.Follows r) {f : ContextFact P} {after : ContextStore P}
    {stack : List (Selection P)} (live : h.store.get? c = some ctx) (about : f.context = c)
    (starts : f.starts = []) (ends : f.ends = []) (stands : (r.add f).recorded c = stack)
    (gets : ∀ context, after.get? context =
      if context = c then some { ctx with stack } else h.store.get? context) (context : Nat) :
    (after.get? context).map (·.stack) =
      if (r.add f).Lives context then some ((r.add f).recorded context) else none := by
  rw [gets]
  simp only [ContextHistory.lives_same starts ends]
  by_cases same : context = c
  · rw [if_pos same, same, if_pos (follows.lives live), stands]
    rfl
  · have apart : f.context ≠ context := about ▸ Ne.symm same
    rw [if_neg same, follows.standing, ContextHistory.recorded_apart apart]

theorem push (follows : h.Follows r) (ordered : r.Ordered) (live : h.store.get? c = some ctx)
    (key : String) (pool : Option (PoolHandle P)) :
    (h.step (.push c key pool)).Follows (r.push c key pool) := by
  have pushed := ContextStore.push_eq live key pool
  obtain ⟨-, -, -, -, gets⟩ := ContextStore.push_spec pushed
  have sound := follows.sound.push pushed
  have top : (r.push c key pool).recorded c = ctx.stack ++ [⟨h.store.nextEntry, key, pool⟩] := by
    rw [follows.recalls live, follows.nextEntry]
    exact ContextHistory.recorded_pushed ordered.not_removed
  simp only [step, pushed]
  refine follows.add sound rfl rfl ?_ (List.append_nil _).symm ?_
  · rw [follows.nextEntry]
    rfl
  · refine follows.changed live rfl rfl rfl top fun context => ?_
    exact (gets context).trans (ContextStore.map_at live _ context)

theorem taken (follows : h.Follows r) {entry : Nat} {after : ContextStore P}
    (live : h.store.get? c = some ctx) (there : entry ∈ ctx.stack.map (·.entry))
    (sound : after.Sound) (nextContext : after.nextContext = h.store.nextContext)
    (nextEntry : after.nextEntry = h.store.nextEntry)
    (gets : ∀ context, after.get? context = if context = c then
      some { ctx with stack := ctx.stack.filter (·.entry ≠ entry) } else h.store.get? context) :
    (h.take c after).Follows (r.add (.taken c entry)) := by
  have gone := gone_filter live ((gets c).trans (if_pos rfl)) (follows.sound.distinct c ctx live)
    there
  refine follows.add sound nextContext nextEntry (List.append_nil _).symm ?_ ?_
  · rw [take, gone]
    rfl
  · refine follows.changed live rfl rfl rfl ?_ gets
    rw [ContextHistory.recorded_taken, ← follows.recalls live]

theorem pop (follows : h.Follows r) (live : h.store.get? c = some ctx) :
    (h.step (.pop c)).Follows (r.pop c) := by
  have stack := follows.recalls live
  rw [ContextHistory.pop, ← stack]
  cases last : ctx.stack.getLast? with
  | none =>
    have same : h.step (.pop c) = h := by
      simp only [step, ContextStore.pop, live, RequestContext.current, last, take_self]
    rw [same]
    exact follows
  | some top =>
    have on : top.entry ∈ ctx.stack.map (·.entry) := List.mem_map_of_mem (List.mem_of_getLast? last)
    obtain ⟨nextContext, nextEntry⟩ := ContextStore.next_pop h.store c
    refine follows.taken live on (follows.sound.pop c) nextContext nextEntry fun context => ?_
    rw [ContextStore.get?_pop, ContextStore.map_at live,
      Selection.dropLast_eq_filter (follows.sound.distinct c ctx live) last]

theorem pop_ended (ended : h.store.get? c = none) : h.step (.pop c) = h := by
  simp only [step, ContextStore.pop, ended, take_self]

theorem release (follows : h.Follows r) (ticket : Ticket) :
    (h.take ticket.context (h.store.release ticket).2).Follows (r.release ticket) := by
  rw [ContextHistory.release]
  split
  · next holds =>
    obtain ⟨ctx, live⟩ := follows.get?_of_lives holds.1
    have on := holds.2
    rw [← follows.recalls live] at on
    obtain ⟨nextContext, nextEntry⟩ := ContextStore.next_release h.store ticket
    refine follows.taken live on (follows.sound.release ticket) nextContext nextEntry
      fun context => ?_
    rw [ContextStore.get?_release, ContextStore.map_at live,
      Selection.withdraw_eq_filter (follows.sound.distinct ticket.context ctx live)]
  · next gone =>
    have nothing : h.store.release ticket = (false, h.store) := by
      cases live : h.store.get? ticket.context with
      | none => exact ContextStore.release_ended live
      | some ctx =>
        refine ContextStore.release_absent live fun s member same => gone ⟨follows.lives live, ?_⟩
        rw [← follows.recalls live, ← same]
        exact List.mem_map_of_mem member
    rw [nothing, take_self]
    exact follows

theorem step (follows : h.Follows r) (ordered : r.Ordered) (event : ContextEvent P) :
    (h.step event).Follows (r.next event) := by
  cases event with
  | start caller replaced => exact (follows.start ordered caller).finishAny replaced
  | copy source replaced =>
    rw [ContextHistory.next]
    split
    · next lives =>
      obtain ⟨ctx, live⟩ := follows.get?_of_lives lives
      simp only [ContextRun.step, ContextStore.copy_eq live]
      exact (follows.copy ordered live).finishAny replaced
    · next ended =>
      simp only [ContextRun.step, ContextStore.copy, follows.get?_of_not_lives ended,
        Option.map_none]
      exact follows
  | finish context => exact follows.finish context
  | push context key pool =>
    rw [ContextHistory.next]
    split
    · next lives =>
      obtain ⟨ctx, live⟩ := follows.get?_of_lives lives
      exact follows.push ordered live key pool
    · next ended =>
      simp only [ContextRun.step, ContextStore.push_eq_none (follows.get?_of_not_lives ended)]
      exact follows
  | pop context =>
    rw [ContextHistory.next]
    split
    · next lives =>
      obtain ⟨ctx, live⟩ := follows.get?_of_lives lives
      exact follows.pop live
    · next ended =>
      rw [pop_ended (follows.get?_of_not_lives ended)]
      exact follows
  | release issue =>
    simp only [ContextRun.step, ContextHistory.next, follows.tickets, List.getElem?_map]
    cases r.issued[issue]? with
    | none => exact follows
    | some p => exact follows.release p.1

end Follows

theorem follows_of (events : List (ContextEvent P)) :
    (ContextHistory.of events).Ordered ∧ (of events).Follows (ContextHistory.of events) := by
  have steps (h : ContextRun P) (r : ContextHistory P) (ordered : r.Ordered)
      (follows : h.Follows r) : (events.foldl ContextHistory.next r).Ordered ∧
        (events.foldl step h).Follows (events.foldl ContextHistory.next r) := by
    induction events generalizing h r with
    | nil => exact ⟨ordered, follows⟩
    | cons event rest ih =>
      exact ih (h.step event) (r.next event) (ordered.next event) (follows.step ordered event)
  exact steps {} {} .empty .empty

/-- What the release of a ticket may do: it takes the entry of that very push from between its
neighbours on the context that issued the ticket, or, where that entry is gone, nothing. -/
def ReleasesOwn (store : ContextStore P) (ticket : Ticket) (own : Selection P) : Prop :=
  (∃ ctx below above, store.get? ticket.context = some ctx ∧ ctx.stack = below ++ own :: above ∧
      (store.release ticket).1 = true ∧
      (store.release ticket).2.get? ticket.context = some { ctx with stack := below ++ above } ∧
      ∀ c ≠ ticket.context, (store.release ticket).2.get? c = store.get? c) ∨
    ((∀ ctx, store.get? ticket.context = some ctx → own ∉ ctx.stack) ∧
      store.release ticket = (false, store))

theorem Follows.releasesOwn (follows : h.Follows r) (ordered : r.Ordered) {ticket : Ticket}
    {own : Selection P} (issue : (ticket, own) ∈ r.issued) : ReleasesOwn h.store ticket own := by
  have same : own.entry = ticket.entry := (ordered.tickets _ issue).symm
  cases live : h.store.get? ticket.context with
  | none =>
    refine .inr ⟨fun ctx present => ?_, ContextStore.release_ended live⟩
    cases live.symm.trans present
  | some ctx =>
    by_cases on : own ∈ ctx.stack
    · obtain ⟨below, above, split⟩ := List.append_of_mem on
      have distinct := follows.sound.distinct ticket.context ctx live
      rw [split, List.map_append, List.nodup_append] at distinct
      have apart : ∀ s ∈ below, s.entry ≠ ticket.entry := fun s member =>
        same ▸ distinct.2.2 s.entry (List.mem_map_of_mem member) own.entry List.mem_cons_self
      have released := ContextStore.release_between live split same apart
      refine .inl ⟨ctx, below, above, live, split, ?_⟩
      rw [released]
      refine ⟨rfl, ?_, fun c other => ?_⟩
      · rw [ContextStore.get?_setStack, if_pos rfl, live, Option.map_some]
      · rw [ContextStore.get?_setStack, if_neg other]
    · refine .inr ⟨fun found present => ?_, ContextStore.release_absent live ?_⟩
      · cases live.symm.trans present
        exact on
      · intro s member number
        have issued := ordered.origin ticket.context s (follows.recalls live ▸ member)
        rw [ordered.own_of_entry issue issued number] at member
        exact on member

theorem Follows.pushes (follows : h.Follows r) (live : h.store.get? c = some ctx) (key : String)
    (pool : Option (PoolHandle P)) :
    (h.step (.push c key pool)).tickets = h.tickets ++ [⟨r.pushes, c, key⟩] ∧
      (h.step (.push c key pool)).store.get? c =
        some { ctx with stack := r.recorded c ++ [⟨r.pushes, key, pool⟩] } := by
  have pushed := ContextStore.push_eq live key pool
  obtain ⟨-, -, -, -, gets⟩ := ContextStore.push_spec pushed
  simp only [ContextRun.step, pushed, ← follows.nextEntry, ← follows.recalls live, true_and]
  exact (gets c).trans ((ContextStore.map_at live _ c).trans (if_pos rfl))

theorem get?_finishAny {replaced : Option Nat} (apart : replaced ≠ some c) :
    (h.finishAny replaced).store.get? c = h.store.get? c := by
  cases replaced with
  | none => rfl
  | some context =>
    refine (ContextStore.get?_finish h.store context c).trans (if_neg ?_)
    rintro rfl
    exact apart rfl

theorem Follows.copies (follows : h.Follows r) (live : h.store.get? c = some ctx)
    {replaced : Option Nat} (apart : replaced ≠ some r.contexts) :
    (h.step (.copy c replaced)).store.get? r.contexts =
      some { ctx with stack := r.recorded c } := by
  simp only [ContextRun.step, ContextStore.copy_eq live, ← follows.recalls live]
  refine (get?_finishAny apart).trans ?_
  exact (ContextStore.get?_enter h.store ctx r.contexts).trans (if_pos follows.nextContext.symm)

theorem Follows.apart (follows : h.Follows r) {event : ContextEvent P}
    (live : h.store.get? c = some ctx) (apart : ¬r.Touches c event) :
    (h.step event).store.get? c = some ctx := by
  have old : c < h.store.nextContext := follows.sound.contexts c ctx live
  cases event with
  | start caller replaced =>
    exact (get?_finishAny apart).trans ((ContextStore.get?_enter_of_lt old).trans live)
  | copy source replaced =>
    cases present : h.store.get? source with
    | none =>
      simp only [ContextRun.step, ContextStore.copy, present, Option.map_none]
      exact live
    | some found =>
      simp only [ContextRun.step, ContextStore.copy_eq present]
      exact (get?_finishAny apart).trans ((ContextStore.get?_enter_of_lt old).trans live)
  | finish context =>
    have other : some context ≠ some c := fun same => apart (Option.some.inj same)
    exact (get?_finishAny other).trans live
  | push context key pool =>
    rw [ContextRun.step]
    split
    · exact live
    · next ticket store pushed =>
      obtain ⟨-, -, -, -, gets⟩ := ContextStore.push_spec pushed
      exact (gets c).trans ((if_neg (Ne.symm apart)).trans live)
  | pop context =>
    exact (ContextStore.get?_pop h.store context c).trans ((if_neg (Ne.symm apart)).trans live)
  | release issue =>
    simp only [ContextRun.step, follows.tickets, List.getElem?_map]
    cases named : r.issued[issue]? with
    | none => exact live
    | some p =>
      have other : c ≠ p.1.context := fun same => apart ⟨p, named, same.symm⟩
      exact (ContextStore.get?_release h.store p.1 c).trans ((if_neg other).trans live)

end ContextRun

namespace ContextHistory

variable {P : Type}

/-- Selections over whole runs. Whatever has been done to contexts so far, those live are the ones
started and not ended, and each has the stack its own history says: what it inherited, then what
was pushed on it, without what was popped from it and what its own tickets released. A push on a
live context puts the key and the pool it is given on top, and a copy has the stack it finds. A
ticket releases the entry of its own push or nothing, no event changes a context it is not about,
and no entry comes off one stack twice. -/
theorem selections_follow_history (events : List (ContextEvent P)) :
    let h := ContextRun.of events
    let r := of events
    (∀ c, (h.store.get? c).map (·.stack) = if r.Lives c then some (r.recorded c) else none) ∧
      (∀ c ctx key pool, h.store.get? c = some ctx →
        (h.step (.push c key pool)).tickets = h.tickets ++ [⟨r.pushes, c, key⟩] ∧
          (h.step (.push c key pool)).store.get? c =
            some { ctx with stack := r.recorded c ++ [⟨r.pushes, key, pool⟩] }) ∧
      (∀ c ctx replaced, h.store.get? c = some ctx → replaced ≠ some r.contexts →
        (h.step (.copy c replaced)).store.get? r.contexts =
          some { ctx with stack := r.recorded c }) ∧
      h.tickets = r.issued.map Prod.fst ∧
      (∀ ticket own, (ticket, own) ∈ r.issued → ContextRun.ReleasesOwn h.store ticket own) ∧
      (∀ event c ctx, h.store.get? c = some ctx → ¬r.Touches c event →
        (h.step event).store.get? c = some ctx) ∧
      h.removed = r.removals ∧ h.removed.Nodup := by
  intro h r
  obtain ⟨ordered, follows⟩ := ContextRun.follows_of events
  exact ⟨follows.standing, fun _ _ key pool live => follows.pushes live key pool,
    fun _ _ _ live apart => follows.copies live apart, follows.tickets,
    fun _ _ issue => follows.releasesOwn ordered issue,
    fun _ _ _ live apart => follows.apart live apart, follows.removed,
    follows.removed ▸ ordered.once⟩

/-- A context is copied, the copy is given a selection of its own and loses it again, and the
ticket of the first selection is used in between. -/
def copiedRun : List (ContextEvent Nat) :=
  [.start default none, .push 0 "5" (some (.own 1)), .copy 0 none, .push 1 "6" none, .release 0,
    .release 0, .pop 1]

theorem selections_follow_history_copied :
    ((ContextRun.of copiedRun).store.get? 0).map (·.stack) = some [] ∧
      ((ContextRun.of copiedRun).store.get? 1).map (·.stack) =
        some [⟨0, "5", some (.own 1)⟩] ∧
      (ContextRun.of copiedRun).removed = [(0, 0), (1, 1)] := by
  have follows := selections_follow_history copiedRun
  exact ⟨(follows.1 0).trans (by decide), (follows.1 1).trans (by decide),
    follows.2.2.2.2.2.2.1.trans (by decide)⟩

end ContextHistory

end RowGuard
