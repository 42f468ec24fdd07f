import Mathlib.Data.List.Nodup
import RowGuard.Context.Store
/-!
What each operation on live contexts does to every context, and the invariant all of them keep: no
number is in use that is still to be given out, and no entry stands on a stack twice.
-/
namespace RowGuard

namespace Selection

variable {P : Type}

theorem withdraw_between {entry : Nat} {below above : List (Selection P)} {own : Selection P}
    (same : own.entry = entry) (absent : ∀ s ∈ below, s.entry ≠ entry) :
    withdraw entry (below ++ own :: above) = some (below ++ above) := by
  induction below with
  | nil => rw [List.nil_append, withdraw, if_pos same, List.nil_append]
  | cons s below ih =>
    have later := ih fun t member => absent t (List.mem_cons_of_mem s member)
    rw [List.cons_append, withdraw, if_neg (absent s List.mem_cons_self), later]
    rfl

theorem withdraw_absent {entry : Nat} {stack : List (Selection P)}
    (absent : ∀ s ∈ stack, s.entry ≠ entry) : withdraw entry stack = none := by
  induction stack with
  | nil => rfl
  | cons s stack ih =>
    rw [withdraw, if_neg (absent s List.mem_cons_self),
      ih fun t member => absent t (List.mem_cons_of_mem s member)]
    rfl

/-- Where no entry stands on a stack twice, withdrawing one leaves all others in their order. -/
theorem withdraw_eq_filter {stack : List (Selection P)}
    (distinct : (stack.map Selection.entry).Nodup) (entry : Nat) :
    (withdraw entry stack).getD stack = stack.filter (·.entry ≠ entry) := by
  by_cases present : ∃ own ∈ stack, own.entry = entry
  · obtain ⟨own, member, same⟩ := present
    obtain ⟨below, above, split⟩ := List.append_of_mem member
    rw [split, List.map_append, List.map_cons, List.nodup_middle, List.nodup_cons,
      List.mem_append] at distinct
    have apart (s : Selection P) (other : s ∈ below ∨ s ∈ above) : s.entry ≠ entry := by
      rintro rfl
      refine distinct.1 ?_
      rw [same]
      exact other.imp (List.mem_map_of_mem ·) (List.mem_map_of_mem ·)
    rw [split, withdraw_between same fun s front => apart s (.inl front), Option.getD_some,
      List.filter_append, List.filter_cons, if_neg (by simp [same])]
    have kept (others : List (Selection P)) (among : ∀ s ∈ others, s ∈ below ∨ s ∈ above) :
        others.filter (·.entry ≠ entry) = others :=
      List.filter_eq_self.2 fun s member => decide_eq_true (apart s (among s member))
    rw [kept below fun s member => .inl member, kept above fun s member => .inr member]
  · have absent : ∀ s ∈ stack, s.entry ≠ entry := fun s member same => present ⟨s, member, same⟩
    rw [withdraw_absent absent, Option.getD_none,
      List.filter_eq_self.2 fun s member => decide_eq_true (absent s member)]

/-- Where no entry stands on a stack twice, popping takes all that has the number of the top. -/
theorem dropLast_eq_filter {stack : List (Selection P)} {top : Selection P}
    (distinct : (stack.map Selection.entry).Nodup) (last : stack.getLast? = some top) :
    stack.dropLast = stack.filter (·.entry ≠ top.entry) := by
  obtain ⟨below, rfl⟩ := List.getLast?_eq_some_iff.1 last
  have apart (s : Selection P) (member : s ∈ below) : s.entry ≠ top.entry := by
    rw [List.map_append, List.nodup_append] at distinct
    exact distinct.2.2 s.entry (List.mem_map_of_mem member) top.entry List.mem_cons_self
  rw [← withdraw_eq_filter distinct, withdraw_between rfl apart, Option.getD_some,
    List.dropLast_concat, List.append_nil]

end Selection

namespace ContextStore

variable {P : Type}

@[simp] theorem get?_setStack (store : ContextStore P) (context : Nat) (stack : List (Selection P))
    (c : Nat) :
    (store.setStack context stack).get? c =
      if c = context then (store.get? c).map fun ctx => { ctx with stack } else store.get? c := by
  obtain ⟨live, nextContext, nextEntry⟩ := store
  simp only [get?, setStack, List.find?_map]
  have same : ((fun entry : Nat × RequestContext P => decide (entry.1 = c)) ∘ fun entry =>
      if entry.1 = context then (entry.1, { entry.2 with stack }) else entry) =
        fun entry => decide (entry.1 = c) := by
    funext entry
    simp only [Function.comp_apply]
    split <;> rfl
  rw [same]
  cases found : live.find? fun entry => decide (entry.1 = c) with
  | none => simp
  | some entry =>
    have number : entry.1 = c := by simpa using List.find?_some found
    simp only [Option.map_some, number]
    split <;> rfl

@[simp] theorem get?_enter (store : ContextStore P) (ctx : RequestContext P) (c : Nat) :
    (store.enter ctx).2.get? c = if c = store.nextContext then some ctx else store.get? c := by
  simp only [get?, enter, List.find?_cons]
  by_cases new : c = store.nextContext
  · simp [new]
  · simp [new, Ne.symm new]

theorem get?_enter_of_lt {store : ContextStore P} {ctx : RequestContext P} {c : Nat}
    (old : c < store.nextContext) : (store.enter ctx).2.get? c = store.get? c := by
  rw [get?_enter, if_neg (Nat.ne_of_lt old)]

@[simp] theorem get?_finish (store : ContextStore P) (context c : Nat) :
    (store.finish context).get? c = if c = context then none else store.get? c := by
  simp only [get?, finish, List.find?_filter]
  by_cases ended : c = context
  · rw [if_pos ended, ended, Option.map_eq_none_iff, List.find?_eq_none]
    simp
  · rw [if_neg ended]
    congr 2
    funext entry
    by_cases number : entry.1 = c <;> simp [number, ended]

theorem copy_eq {store : ContextStore P} {context : Nat} {ctx : RequestContext P}
    (live : store.get? context = some ctx) : store.copy context = some (store.enter ctx) := by
  rw [copy, live]
  rfl

theorem map_at {store : ContextStore P} {context : Nat} {ctx : RequestContext P}
    (live : store.get? context = some ctx) (change : RequestContext P → RequestContext P)
    (c : Nat) :
    (if c = context then (store.get? c).map change else store.get? c) =
      if c = context then some (change ctx) else store.get? c := by
  split
  · next same => rw [same, live, Option.map_some]
  · rfl

theorem map_at_ended {store : ContextStore P} {context : Nat} (ended : store.get? context = none)
    (change : RequestContext P → RequestContext P) (c : Nat) :
    (if c = context then (store.get? c).map change else store.get? c) = store.get? c := by
  split
  · next same => rw [same, ended, Option.map_none]
  · rfl

theorem map_at_same {store : ContextStore P} {context : Nat} {ctx : RequestContext P}
    (live : store.get? context = some ctx) {change : RequestContext P → RequestContext P}
    (same : change ctx = ctx) (c : Nat) :
    (if c = context then (store.get? c).map change else store.get? c) = store.get? c := by
  rw [map_at live, same]
  split
  · next at_context => rw [at_context, live]
  · rfl

theorem push_eq {store : ContextStore P} {context : Nat} {ctx : RequestContext P}
    (live : store.get? context = some ctx) (key : String) (pool : Option (PoolHandle P)) :
    store.push context key pool = some (⟨store.nextEntry, context, key⟩,
      { store.setStack context (ctx.stack ++ [⟨store.nextEntry, key, pool⟩]) with
        nextEntry := store.nextEntry + 1 }) := by
  rw [push, live]
  rfl

theorem push_eq_none {store : ContextStore P} {context : Nat} (ended : store.get? context = none)
    (key : String) (pool : Option (PoolHandle P)) : store.push context key pool = none := by
  rw [push, ended]
  rfl

/-- A push puts one entry with a new number on top of one stack and changes nothing else. -/
theorem push_spec {store after : ContextStore P} {context : Nat} {key : String}
    {pool : Option (PoolHandle P)} {ticket : Ticket}
    (pushed : store.push context key pool = some (ticket, after)) :
    ticket = ⟨store.nextEntry, context, key⟩ ∧ after.nextContext = store.nextContext ∧
      after.nextEntry = store.nextEntry + 1 ∧ (store.get? context).isSome ∧
      ∀ c, after.get? c = if c = context then (store.get? c).map fun ctx =>
        { ctx with stack := ctx.stack ++ [⟨store.nextEntry, key, pool⟩] } else store.get? c := by
  cases live : store.get? context with
  | none =>
    rw [push_eq_none live] at pushed
    cases pushed
  | some ctx =>
    rw [push_eq live, Option.some.injEq, Prod.mk.injEq] at pushed
    obtain ⟨rfl, rfl⟩ := pushed
    refine ⟨rfl, rfl, rfl, rfl, fun c => ?_⟩
    rw [map_at live]
    exact (get?_setStack store context _ c).trans (map_at live _ c)

theorem get?_pop (store : ContextStore P) (context c : Nat) :
    (store.pop context).2.get? c =
      if c = context then (store.get? c).map fun ctx => { ctx with stack := ctx.stack.dropLast }
      else store.get? c := by
  unfold pop
  cases live : store.get? context with
  | none => exact (map_at_ended live _ c).symm
  | some ctx =>
    dsimp only
    cases top : ctx.current with
    | none =>
      have empty : ctx.stack = [] := List.getLast?_eq_none_iff.1 top
      refine (map_at_same live ?_ c).symm
      rw [empty, List.dropLast_nil, ← empty]
    | some selection =>
      rw [map_at live]
      exact (get?_setStack store context _ c).trans (map_at live _ c)

theorem get?_release (store : ContextStore P) (ticket : Ticket) (c : Nat) :
    (store.release ticket).2.get? c =
      if c = ticket.context then (store.get? c).map fun ctx =>
        { ctx with stack := (Selection.withdraw ticket.entry ctx.stack).getD ctx.stack }
      else store.get? c := by
  unfold release
  cases live : store.get? ticket.context with
  | none => exact (map_at_ended live _ c).symm
  | some ctx =>
    dsimp only
    cases found : Selection.withdraw ticket.entry ctx.stack with
    | none =>
      refine (map_at_same live ?_ c).symm
      rw [found, Option.getD_none]
    | some stack =>
      rw [map_at live, found, Option.getD_some]
      exact (get?_setStack store ticket.context stack c).trans (map_at live _ c)

theorem release_ended {store : ContextStore P} {ticket : Ticket}
    (ended : store.get? ticket.context = none) : store.release ticket = (false, store) := by
  rw [release, ended]

theorem release_absent {store : ContextStore P} {ticket : Ticket} {ctx : RequestContext P}
    (live : store.get? ticket.context = some ctx)
    (absent : ∀ s ∈ ctx.stack, s.entry ≠ ticket.entry) :
    store.release ticket = (false, store) := by
  simp only [release, live, Selection.withdraw_absent absent]

theorem release_between {store : ContextStore P} {ticket : Ticket} {ctx : RequestContext P}
    {own : Selection P} {below above : List (Selection P)}
    (live : store.get? ticket.context = some ctx) (place : ctx.stack = below ++ own :: above)
    (same : own.entry = ticket.entry) (absent : ∀ s ∈ below, s.entry ≠ ticket.entry) :
    store.release ticket = (true, store.setStack ticket.context (below ++ above)) := by
  simp only [release, live, place, Selection.withdraw_between same absent]

@[simp] theorem next_pop (store : ContextStore P) (context : Nat) :
    (store.pop context).2.nextContext = store.nextContext ∧
      (store.pop context).2.nextEntry = store.nextEntry := by
  unfold pop
  split
  · exact ⟨rfl, rfl⟩
  · split <;> exact ⟨rfl, rfl⟩

@[simp] theorem next_release (store : ContextStore P) (ticket : Ticket) :
    (store.release ticket).2.nextContext = store.nextContext ∧
      (store.release ticket).2.nextEntry = store.nextEntry := by
  unfold release
  split
  · exact ⟨rfl, rfl⟩
  · split <;> exact ⟨rfl, rfl⟩

/-- Numbers in use are below those still to be given out, and no entry stands on a stack twice. -/
structure Sound (store : ContextStore P) : Prop where
  contexts : ∀ c ctx, store.get? c = some ctx → c < store.nextContext
  entries : ∀ c ctx, store.get? c = some ctx → ∀ s ∈ ctx.stack, s.entry < store.nextEntry
  distinct : ∀ c ctx, store.get? c = some ctx → (ctx.stack.map Selection.entry).Nodup

theorem Sound.empty : Sound ({} : ContextStore P) :=
  ⟨fun _ _ live => (nomatch live), fun _ _ live => (nomatch live), fun _ _ live => (nomatch live)⟩

/-- Whether one store comes from another by ending contexts and taking entries off stacks. -/
def Shrinks (store after : ContextStore P) : Prop :=
  ∀ c new, after.get? c = some new → ∃ ctx, store.get? c = some ctx ∧ new.stack.Sublist ctx.stack

theorem Sound.shrink {store after : ContextStore P} (sound : store.Sound)
    (less : store.Shrinks after) (nextContext : after.nextContext = store.nextContext)
    (nextEntry : after.nextEntry = store.nextEntry) : after.Sound where
  contexts c new live := by
    obtain ⟨ctx, before, -⟩ := less c new live
    rw [nextContext]
    exact sound.contexts c ctx before
  entries c new live s member := by
    obtain ⟨ctx, before, part⟩ := less c new live
    rw [nextEntry]
    exact sound.entries c ctx before s (part.subset member)
  distinct c new live := by
    obtain ⟨ctx, before, part⟩ := less c new live
    exact (sound.distinct c ctx before).sublist (part.map Selection.entry)

theorem shrinks_finish (store : ContextStore P) (context : Nat) :
    store.Shrinks (store.finish context) := by
  intro c new live
  rw [get?_finish] at live
  split at live
  · cases live
  · exact ⟨new, live, .refl _⟩

theorem withdraw_sublist (entry : Nat) (stack : List (Selection P)) :
    ((Selection.withdraw entry stack).getD stack).Sublist stack := by
  induction stack with
  | nil => exact .slnil
  | cons s stack ih =>
    rw [Selection.withdraw]
    split
    · exact List.sublist_cons_self s stack
    · cases found : Selection.withdraw entry stack with
      | none => exact .refl _
      | some rest =>
        rw [found] at ih
        exact ih.cons_cons s

theorem shrinks_pop (store : ContextStore P) (context : Nat) :
    store.Shrinks (store.pop context).2 := by
  intro c new live
  rw [get?_pop] at live
  split at live
  · obtain ⟨ctx, before, rfl⟩ := Option.map_eq_some_iff.1 live
    exact ⟨ctx, before, List.dropLast_sublist _⟩
  · exact ⟨new, live, .refl _⟩

theorem shrinks_release (store : ContextStore P) (ticket : Ticket) :
    store.Shrinks (store.release ticket).2 := by
  intro c new live
  rw [get?_release] at live
  split at live
  · obtain ⟨ctx, before, rfl⟩ := Option.map_eq_some_iff.1 live
    exact ⟨ctx, before, withdraw_sublist ticket.entry ctx.stack⟩
  · exact ⟨new, live, .refl _⟩

theorem Sound.finish {store : ContextStore P} (sound : store.Sound) (context : Nat) :
    (store.finish context).Sound :=
  sound.shrink (shrinks_finish store context) rfl rfl

theorem Sound.pop {store : ContextStore P} (sound : store.Sound) (context : Nat) :
    (store.pop context).2.Sound :=
  sound.shrink (shrinks_pop store context) (next_pop store context).1 (next_pop store context).2

theorem Sound.release {store : ContextStore P} (sound : store.Sound) (ticket : Ticket) :
    (store.release ticket).2.Sound :=
  sound.shrink (shrinks_release store ticket) (next_release store ticket).1
    (next_release store ticket).2

theorem Sound.enter {store : ContextStore P} (sound : store.Sound) {ctx : RequestContext P}
    (entries : ∀ s ∈ ctx.stack, s.entry < store.nextEntry)
    (distinct : (ctx.stack.map Selection.entry).Nodup) : (store.enter ctx).2.Sound where
  contexts c new live := by
    change c < store.nextContext + 1
    rw [get?_enter] at live
    split at live
    · omega
    · exact Nat.lt_succ_of_lt (sound.contexts c new live)
  entries c new live s member := by
    rw [get?_enter] at live
    split at live
    · cases live
      exact entries s member
    · exact sound.entries c new live s member
  distinct c new live := by
    rw [get?_enter] at live
    split at live
    · cases live
      exact distinct
    · exact sound.distinct c new live

theorem Sound.begin {store : ContextStore P} (sound : store.Sound) {ctx : RequestContext P}
    (origin : ctx.stack = [] ∨ ∃ c, store.get? c = some ctx) : (store.enter ctx).2.Sound := by
  rcases origin with empty | ⟨c, live⟩
  · refine sound.enter (fun s member => ?_) ?_
    · rw [empty] at member
      cases member
    · rw [empty]
      exact .nil
  · exact sound.enter (sound.entries c ctx live) (sound.distinct c ctx live)

theorem Sound.push {store after : ContextStore P} (sound : store.Sound) {context : Nat}
    {key : String} {pool : Option (PoolHandle P)} {ticket : Ticket}
    (pushed : store.push context key pool = some (ticket, after)) : after.Sound := by
  obtain ⟨-, nextContext, nextEntry, -, contexts⟩ := push_spec pushed
  have grown (c : Nat) (new : RequestContext P) (live : after.get? c = some new) :
      ∃ ctx, store.get? c = some ctx ∧
        (new.stack = ctx.stack ∨ new.stack = ctx.stack ++ [⟨store.nextEntry, key, pool⟩]) := by
    rw [contexts] at live
    split at live
    · obtain ⟨ctx, before, rfl⟩ := Option.map_eq_some_iff.1 live
      exact ⟨ctx, before, .inr rfl⟩
    · exact ⟨new, live, .inl rfl⟩
  constructor
  · intro c new live
    obtain ⟨ctx, before, -⟩ := grown c new live
    rw [nextContext]
    exact sound.contexts c ctx before
  · intro c new live s member
    obtain ⟨ctx, before, same | top⟩ := grown c new live
    · rw [same] at member
      have below := sound.entries c ctx before s member
      omega
    · rw [top, List.mem_append, List.mem_singleton] at member
      rcases member with older | rfl
      · have below := sound.entries c ctx before s older
        omega
      · rw [nextEntry]
        exact Nat.lt_succ_self store.nextEntry
  · intro c new live
    obtain ⟨ctx, before, same | top⟩ := grown c new live
    · rw [same]
      exact sound.distinct c ctx before
    · rw [top, List.map_append, List.map_singleton, List.nodup_append]
      refine ⟨sound.distinct c ctx before, List.nodup_singleton _, ?_⟩
      intro entry older new isNew same
      obtain ⟨s, member, number⟩ := List.mem_map.1 older
      have below := sound.entries c ctx before s member
      rw [number, same, List.mem_singleton.1 isNew] at below
      exact Nat.lt_irrefl _ below

def Carries (store : ContextStore P) (s : Selection P) : Prop :=
  ∃ c ctx, store.get? c = some ctx ∧ s ∈ ctx.stack

theorem Sound.carries_lt {store : ContextStore P} (sound : store.Sound) {s : Selection P}
    (carries : store.Carries s) : s.entry < store.nextEntry := by
  obtain ⟨c, ctx, live, member⟩ := carries
  exact sound.entries c ctx live s member

theorem Shrinks.carries {store after : ContextStore P} (less : store.Shrinks after)
    {s : Selection P} (carries : after.Carries s) : store.Carries s := by
  obtain ⟨c, new, live, member⟩ := carries
  obtain ⟨ctx, before, part⟩ := less c new live
  exact ⟨c, ctx, before, part.subset member⟩

theorem carries_of_enter {store : ContextStore P} {ctx : RequestContext P} {s : Selection P}
    (origin : ctx.stack = [] ∨ ∃ c, store.get? c = some ctx)
    (carries : (store.enter ctx).2.Carries s) : store.Carries s := by
  obtain ⟨c, new, live, member⟩ := carries
  rw [get?_enter] at live
  split at live
  · cases live
    rcases origin with empty | ⟨source, before⟩
    · rw [empty] at member
      cases member
    · exact ⟨source, ctx, before, member⟩
  · exact ⟨c, new, live, member⟩

theorem carries_of_push {store after : ContextStore P} {context : Nat} {key : String}
    {pool : Option (PoolHandle P)} {ticket : Ticket} {s : Selection P}
    (pushed : store.push context key pool = some (ticket, after)) (carries : after.Carries s) :
    store.Carries s ∨ s = ⟨store.nextEntry, key, pool⟩ := by
  obtain ⟨-, -, -, -, gets⟩ := push_spec pushed
  obtain ⟨c, new, live, member⟩ := carries
  rw [gets] at live
  split at live
  · obtain ⟨ctx, before, rfl⟩ := Option.map_eq_some_iff.1 live
    rcases List.mem_append.1 member with older | top
    · exact .inl ⟨c, ctx, before, older⟩
    · exact .inr (List.mem_singleton.1 top)
  · exact .inl ⟨c, new, live, member⟩

end ContextStore

end RowGuard
