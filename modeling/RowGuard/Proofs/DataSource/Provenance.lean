import RowGuard.Proofs.DataSource.Routing
/-!
Where the pool of a call comes from. Whatever else goes on, work that has a key selected gets a pool
that was built for this key or none, work under a change gets the very pool the change resolved to,
and the default pool serves only where nothing is selected.
-/
namespace RowGuard.Routing

variable {P : Type} {h : Routing P} {event : RoutingEvent P} {entry : Nat} {key : String}
  {source : DataSource} {pool : P}

def Answered (start : Routing P) (events : List (RoutingEvent P)) (key : String)
    (source : DataSource) : Prop :=
  ∃ m ∈ start.moments events, m.1.Answers m.2 key source

def Built (start : Routing P) (events : List (RoutingEvent P)) (key : String) (pool : P) : Prop :=
  ∃ before event after source, events = before ++ event :: after ∧
    start.Answered before key source ∧ (start.run before).Builds event key source pool

theorem Answered.later {start : Routing P} {events : List (RoutingEvent P)}
    (answered : start.Answered events key source) (event : RoutingEvent P) :
    start.Answered (events ++ [event]) key source := by
  obtain ⟨m, member, answers⟩ := answered
  rw [Answered, moments_append]
  exact ⟨m, List.mem_append_left _ member, answers⟩

theorem Answers.answered {start : Routing P} {events : List (RoutingEvent P)}
    (answers : (start.run events).Answers event key source) :
    start.Answered (events ++ [event]) key source := by
  rw [Answered, moments_append]
  exact ⟨(start.run events, event), List.mem_append_right _ List.mem_cons_self, answers⟩

theorem Built.later {start : Routing P} {events : List (RoutingEvent P)}
    (built : start.Built events key pool) (event : RoutingEvent P) :
    start.Built (events ++ [event]) key pool := by
  obtain ⟨before, earlier, after, source, rfl, answered, builds⟩ := built
  exact ⟨before, earlier, after ++ [event], source, by simp, answered, builds⟩

theorem Selects.entry_eq (selects : h.Selects event entry key pool) :
    entry = h.contexts.nextEntry ∧
      (h.step event).contexts.nextEntry = h.contexts.nextEntry + 1 := by
  obtain ⟨n, factory, context, ticket, rfl, ready, answered, rfl⟩ := selects
  rcases h.advance_contexts n factory with ⟨unanswered, -⟩ | ⟨_, _, _, issue, -, answered',
    pushed⟩
  · exact absurd answered (unanswered ticket)
  · cases answered.symm.trans answered'
    obtain ⟨issued, -, next, -, -⟩ := ContextStore.push_spec pushed
    exact ⟨congrArg Ticket.entry issued, next⟩

theorem Selects.unique {other : Nat} {key' : String} {pool' : P}
    (first : h.Selects event entry key pool) (second : h.Selects event other key' pool') :
    key' = key ∧ pool' = pool := by
  obtain ⟨n, factory, context, ticket, rfl, ready, -⟩ := first
  obtain ⟨_, _, _, _, same, ready', -⟩ := second
  cases same
  cases ready.symm.trans ready'
  exact ⟨rfl, rfl⟩

structure Traced (start : Routing P) (events : List (RoutingEvent P)) (h : Routing P) : Prop where
  sound : h.contexts.Sound
  ascending : h.router.registry.pools.Ascending
  defaultPool : h.router.defaultPool = start.router.defaultPool
  listed : ∀ n context key source, h.calls n = some ⟨context, key, .listed source⟩ →
    start.Answered events key source
  ready : ∀ n context key pool, h.calls n = some ⟨context, key, .ready pool⟩ →
    start.Built events key pool
  registered : ∀ key pool, h.router.registry.get? key = some pool → start.Built events key pool
  carried : ∀ s, h.contexts.Carries s →
    s.pool = none ∨ ∃ pool, s.pool = some (.own pool) ∧ start.Built events s.key pool
  resolved : ∀ m ∈ start.moments events, ∀ entry key pool, m.1.Selects m.2 entry key pool →
    entry < h.contexts.nextEntry ∧
      ∀ s, h.contexts.Carries s → s.entry = entry → s.key = key ∧ s.pool = some (.own pool)

theorem Traced.initial (catalog : DataSource.Catalog) (defaultPool : Option P) :
    Traced (initial catalog defaultPool) [] (initial catalog defaultPool) where
  sound := .empty
  ascending := .nil
  defaultPool := rfl
  listed _ _ _ _ under := nomatch under
  ready _ _ _ _ under := nomatch under
  registered _ _ registered := nomatch registered
  carried _ carries := by
    obtain ⟨c, ctx, live, -⟩ := carries
    cases live
  resolved _ member := nomatch member

/-- The invariant of runs. An entry that is new has a number that no change had before, so older
changes still own their entries, and the change that just happened owns the new one. -/
theorem Traced.step {start : Routing P} {events : List (RoutingEvent P)}
    (traced : Traced start events (start.run events)) (event : RoutingEvent P) :
    Traced start (events ++ [event]) ((start.run events).step event) := by
  obtain ⟨sound, grown⟩ := sound_step traced.sound event
  have built {key : String} {source : DataSource} {pool : P}
      (builds : (start.run events).Builds event key source pool) :
      start.Built (events ++ [event]) key pool := by
    obtain ⟨n, factory, context, -, under, -⟩ := id builds
    exact ⟨events, event, [], source, rfl, traced.listed n context key source under, builds⟩
  constructor
  case sound => exact sound
  case ascending => exact ascending_step traced.ascending event
  case defaultPool => exact (router_step _ event).1.trans traced.defaultPool
  case listed =>
    intro n context key source under
    rcases calls_step under with ⟨older, -⟩ | ⟨-, -, begun⟩ | ⟨factory, stage, now, before, learns⟩
    · exact (traced.listed n context key source older).later event
    · cases found : (start.run events).router.registry.get? key <;> rw [found] at begun <;>
        cases begun
    · cases learns with
      | listed found => exact Answers.answered ⟨n, factory, context, now, before, found⟩
  case ready =>
    intro n context key pool under
    rcases calls_step under with ⟨older, -⟩ | ⟨-, -, begun⟩ | ⟨factory, stage, now, before, learns⟩
    · exact (traced.ready n context key pool older).later event
    · cases found : (start.run events).router.registry.get? key with
      | none =>
        rw [found] at begun
        cases begun
      | some registered =>
        rw [found] at begun
        cases begun
        exact (traced.registered key pool found).later event
    · cases learns with
      | reused registered => exact (traced.registered key pool registered).later event
      | built builds => exact built builds
  case registered =>
    intro key pool registered
    rcases registered_step traced.ascending registered with older | ⟨source, builds⟩
    · exact (traced.registered key pool older).later event
    · exact built builds
  case carried =>
    intro s carries
    rcases carries_step carries with older | ⟨-, ⟨-, -, bare⟩ | ⟨pool, own, selects⟩⟩
    · rcases traced.carried s older with bare | ⟨pool, own, earlier⟩
      · exact .inl bare
      · exact .inr ⟨pool, own, earlier.later event⟩
    · exact .inl bare
    · obtain ⟨n, factory, context, ticket, -, ready, -⟩ := selects
      exact .inr ⟨pool, own, (traced.ready n context s.key pool ready).later event⟩
  case resolved =>
    intro m member entry key pool selects
    rw [moments_append, List.mem_append] at member
    rcases member with earlier | now
    · obtain ⟨below, owned⟩ := traced.resolved m earlier entry key pool selects
      refine ⟨Nat.lt_of_lt_of_le below grown, fun s carries same => ?_⟩
      rcases carries_step carries with older | ⟨new, -⟩
      · exact owned s older same
      · omega
    · obtain rfl : m = (start.run events, event) := List.mem_singleton.1 now
      obtain ⟨number, next⟩ := selects.entry_eq
      dsimp only at number next
      refine ⟨by omega, fun s carries same => ?_⟩
      rcases carries_step carries with older | ⟨-, ⟨context, pushed, -⟩ | ⟨other, own, selected⟩⟩
      · have below := traced.sound.carries_lt older
        omega
      · obtain ⟨_, _, _, _, changed, -⟩ := selects
        rw [pushed] at changed
        cases changed
      · obtain ⟨sameKey, rfl⟩ := selects.unique selected
        exact ⟨sameKey, own⟩

theorem traced_run (catalog : DataSource.Catalog) (defaultPool : Option P)
    (events : List (RoutingEvent P)) :
    Traced (initial catalog defaultPool) events ((initial catalog defaultPool).run events) :=
  run_induction (.initial catalog defaultPool) (fun _ event traced => traced.step event) events

/-- No call gets the pool of another key. At every moment of every run, and for every context, work
that finds a key on top of its selections gets a pool that was built for this key out of what the
provider answered for it, or none, and what the default pool is makes no difference. Where the top
entry came from a change, in the context it was made in or in a copy, the work gets exactly the pool
the change resolved to. Only work with nothing selected gets the default pool. -/
theorem no_pool_of_another_key (catalog : DataSource.Catalog) (defaultPool : Option P)
    (events : List (RoutingEvent P)) (context : Option Nat) :
    let start := initial catalog defaultPool
    let h := start.run events
    (∀ top, h.selected context = some top →
      (∀ other, ({ h.router with defaultPool := other } : Router P).currentPool
        ((h.task context).current h.contexts) = h.currentPool context) ∧
      (∀ pool, h.currentPool context = some pool → start.Built events top.key pool) ∧
      ∀ m ∈ start.moments events, ∀ key pool, m.1.Selects m.2 top.entry key pool →
        top.key = key ∧ h.currentPool context = some pool) ∧
    (h.selected context = none → h.currentPool context = defaultPool) := by
  intro start h
  have traced := traced_run catalog defaultPool events
  refine ⟨fun top selected => ?_, fun nothing => ?_⟩
  · have current : h.currentPool context = top.ownPool?.or (h.router.registry.get? top.key) :=
      h.router.currentPool_selected selected
    have carries : h.contexts.Carries top := by
      obtain ⟨ctx, found, last⟩ := Option.bind_eq_some_iff.1 selected
      rw [current_task] at found
      obtain ⟨c, -, live⟩ := Option.bind_eq_some_iff.1 found
      exact ⟨c, ctx, live, List.mem_of_getLast? last⟩
    refine ⟨fun other => ?_, fun pool got => ?_, fun m member key pool selects => ?_⟩
    · rw [current]
      exact Router.currentPool_selected _ selected
    · rw [current] at got
      rcases traced.carried top carries with bare | ⟨own, kept, built⟩
      · rw [Selection.ownPool?, bare] at got
        exact traced.registered top.key pool got
      · rw [Selection.ownPool?, kept] at got
        cases got
        exact built
    · obtain ⟨-, owned⟩ := traced.resolved m member top.entry key pool selects
      obtain ⟨sameKey, kept⟩ := owned top carries rfl
      refine ⟨sameKey, ?_⟩
      rw [current, Selection.ownPool?, kept]
      rfl
  · exact (h.router.currentPool_unselected nothing).trans traced.defaultPool

-- Removing a key leaves work that has its pool selected alone, but not work that pushed the key.
example :
    let factory : PoolFactory Nat := fun created _ => .ok created
    let h := (initial [("k", default)] (some 9)).run
      [.start default, .begin 0 (some 0) "k", .advance 0 factory, .advance 0 factory,
        .advance 0 factory, .start default, .push 1 "k"]
    (h.currentPool (some 0), h.currentPool (some 1), h.currentPool none) =
        (some 0, some 0, some 9) ∧
      ((h.step (.remove "k")).currentPool (some 0), (h.step (.remove "k")).currentPool (some 1)) =
        (some 0, none) := by
  decide

end RowGuard.Routing
