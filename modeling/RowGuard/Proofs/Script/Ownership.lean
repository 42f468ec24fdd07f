import RowGuard.Proofs.Script.Machine
/-!
Who may touch which context, at every moment of every run. Tasks work in contexts that are live,
kept work owns the contexts it captured, and nobody else has a way to one of those.
-/
namespace RowGuard.Script

variable {P : Type}

def Session.captives (session : Session P) : List Nat :=
  session.deferred.filterMap (·.2.captured.context)

theorem Session.captive_of_find? {session : Session P} {name : String} {work : Deferred P} {c : Nat}
    (kept : Table.find? name session.deferred = some work)
    (captured : work.captured.context = some c) : c ∈ session.captives :=
  List.mem_filterMap.2 ⟨(name, work), Table.mem_of_find? kept, captured⟩

theorem Session.captive_of_erase {session : Session P} {name : String} {c : Nat}
    (captive : c ∈ captives { session with deferred := Table.erase name session.deferred }) :
    c ∈ session.captives :=
  ((Table.erase_sublist name session.deferred).filterMap _).subset captive

namespace Point

def tasks (point : Point P) : List Task := point.task :: point.frames.map Frame.outer

/-- Whether some task, some body's end or some ticket is about a context. -/
def Uses (point : Point P) (c : Nat) : Prop :=
  (∃ task ∈ point.tasks, task.context = some c) ∨
    (∃ frame ∈ point.frames, frame.closing.context? = some c) ∨
    ∃ ticket ∈ point.session.held, ticket.context = c

/-- No body's end finishes a context that a task around that body works in. -/
def Nested : List Frame → Prop
  | [] => True
  | frame :: frames =>
    (∀ c, frame.closing = .finish c → ∀ around ∈ frame :: frames, around.outer.context ≠ some c) ∧
      Nested frames

structure Orderly (point : Point P) : Prop where
  sound : point.session.contexts.Sound
  used : ∀ c, point.Uses c → c < point.session.contexts.nextContext
  captured : ∀ c ∈ point.session.captives, (point.session.contexts.get? c).isSome
  distinct : point.session.captives.Nodup
  apart : ∀ c ∈ point.session.captives, ¬point.Uses c
  lives : ∀ task ∈ point.tasks, ∀ c, task.context = some c →
    (point.session.contexts.get? c).isSome
  nested : Nested point.frames

theorem Orderly.captive_lt {point : Point P} (orderly : point.Orderly) {c : Nat}
    (captive : c ∈ point.session.captives) : c < point.session.contexts.nextContext := by
  obtain ⟨ctx, live⟩ := Option.isSome_iff_exists.1 (orderly.captured c captive)
  exact orderly.sound.contexts c ctx live

theorem Orderly.start (router : Router P) : Orderly ⟨[], .bare, { router }⟩ where
  sound := .empty
  used c uses := by
    rcases uses with ⟨task, member, own⟩ | ⟨frame, member, -⟩ | ⟨ticket, member, -⟩
    · rw [List.mem_singleton.1 member] at own
      cases own
    · cases member
    · cases member
  captured _ member := nomatch member
  distinct := .nil
  apart _ member := nomatch member
  lives task member c own := by
    rw [List.mem_singleton.1 member] at own
    cases own
  nested := trivial

variable {frames : List Frame} {task : Task} {before after session : Session P}

theorem Uses.within (within : Session.Local task before after) {c : Nat}
    (uses : Uses ⟨frames, task, after⟩ c) : Uses ⟨frames, task, before⟩ c := by
  rcases uses with tasks | closings | ⟨ticket, member, rfl⟩
  · exact .inl tasks
  · exact .inr (.inl closings)
  · rcases within.held ticket member with older | own
    · exact .inr (.inr ⟨ticket, older, rfl⟩)
    · exact .inl ⟨task, List.mem_cons_self, own⟩

theorem Orderly.within (orderly : Orderly ⟨frames, task, before⟩)
    (within : Session.Local task before after) : Orderly ⟨frames, task, after⟩ := by
  have captives : after.captives = before.captives := by
    rw [Session.captives, Session.captives, within.deferred]
  constructor
  case sound => exact within.sound orderly.sound
  case used =>
    intro c uses
    rw [within.nextContext]
    exact orderly.used c (uses.within within)
  case captured =>
    intro c captive
    rw [within.lives]
    exact orderly.captured c (captives ▸ captive)
  case distinct => exact captives ▸ orderly.distinct
  case apart =>
    exact fun c captive uses => orderly.apart c (captives ▸ captive) (uses.within within)
  case lives =>
    intro t member c own
    rw [within.lives]
    exact orderly.lives t member c own
  case nested => exact orderly.nested

theorem Uses.inside {inner : Task} (seen : inner.context = task.context ∨ inner.context = none)
    {closing : Closing} (own : closing.context? = none ∨ closing.context? = task.context) {c : Nat}
    (uses : Uses ⟨⟨task, closing⟩ :: frames, inner, session⟩ c) :
    Uses ⟨frames, task, session⟩ c := by
  rcases uses with ⟨t, member, works⟩ | ⟨frame, member, about⟩ | held
  · rcases List.mem_cons.1 member with rfl | outer
    · rcases seen with same | none
      · exact .inl ⟨task, List.mem_cons_self, same ▸ works⟩
      · rw [none] at works
        cases works
    · exact .inl ⟨t, outer, works⟩
  · rcases List.mem_cons.1 member with rfl | older
    · rcases own with none | same
      · rw [none] at about
        cases about
      · exact .inl ⟨task, List.mem_cons_self, same ▸ about⟩
    · exact .inr (.inl ⟨frame, older, about⟩)
  · exact .inr (.inr held)

theorem Orderly.inside (orderly : Orderly ⟨frames, task, session⟩) {inner : Task}
    (seen : inner.context = task.context ∨ inner.context = none) {closing : Closing}
    (own : closing.context? = none ∨ closing.context? = task.context)
    (keeps : ∀ c, closing ≠ .finish c) :
    Orderly ⟨⟨task, closing⟩ :: frames, inner, session⟩ where
  sound := orderly.sound
  used c uses := orderly.used c (uses.inside seen own)
  captured := orderly.captured
  distinct := orderly.distinct
  apart c captive uses := orderly.apart c captive (uses.inside seen own)
  lives t member c works := by
    rcases List.mem_cons.1 member with rfl | outer
    · rcases seen with same | none
      · exact orderly.lives task List.mem_cons_self c (same ▸ works)
      · rw [none] at works
        cases works
    · exact orderly.lives t outer c works
  nested := ⟨fun c ends => absurd ends (keeps c), orderly.nested⟩

theorem Orderly.works_lt {point : Point P} (orderly : point.Orderly) {t : Task}
    (member : t ∈ point.tasks) {c : Nat} (works : t.context = some c) :
    c < point.session.contexts.nextContext :=
  orderly.used c (.inl ⟨t, member, works⟩)

theorem nested_cons {closing : Closing} (nested : Nested frames)
    (apart : ∀ c, closing = .finish c → ∀ t ∈ task :: frames.map Frame.outer, t.context ≠ some c) :
    Nested (⟨task, closing⟩ :: frames) := by
  refine ⟨fun c ends around member => ?_, nested⟩
  rcases List.mem_cons.1 member with rfl | older
  · exact apart c ends task List.mem_cons_self
  · exact apart c ends around.outer (List.mem_cons_of_mem task (List.mem_map_of_mem older))

theorem Orderly.enter (orderly : Orderly ⟨frames, task, session⟩) {inner : Task}
    {ctx : RequestContext P} (own : inner.context = some session.contexts.nextContext)
    (origin : ctx.stack = [] ∨ ∃ c, session.contexts.get? c = some ctx) :
    Orderly ⟨⟨task, .finish session.contexts.nextContext⟩ :: frames, inner,
      { session with contexts := (session.contexts.enter ctx).2 }⟩ := by
  have uses_cases (c : Nat)
      (uses : Uses ⟨⟨task, .finish session.contexts.nextContext⟩ :: frames, inner,
        { session with contexts := (session.contexts.enter ctx).2 }⟩ c) :
      Uses ⟨frames, task, session⟩ c ∨ c = session.contexts.nextContext := by
    rcases uses with ⟨t, member, works⟩ | ⟨frame, member, about⟩ | held
    · rcases List.mem_cons.1 member with rfl | outer
      · exact .inr (Option.some.inj (works.symm.trans own))
      · exact .inl (.inl ⟨t, outer, works⟩)
    · rcases List.mem_cons.1 member with rfl | older
      · exact .inr (Option.some.inj about).symm
      · exact .inl (.inr (.inl ⟨frame, older, about⟩))
    · exact .inl (.inr (.inr held))
  have still (c : Nat) (old : c < session.contexts.nextContext) :
      ((session.contexts.enter ctx).2.get? c).isSome = (session.contexts.get? c).isSome := by
    rw [ContextStore.get?_enter_of_lt old]
  constructor
  case sound => exact orderly.sound.begin origin
  case used =>
    intro c uses
    change c < session.contexts.nextContext + 1
    rcases uses_cases c uses with older | rfl
    · exact Nat.lt_succ_of_lt (orderly.used c older)
    · exact Nat.lt_succ_self session.contexts.nextContext
  case captured =>
    intro c captive
    exact (still c (orderly.captive_lt captive)).trans (orderly.captured c captive)
  case distinct => exact orderly.distinct
  case apart =>
    intro c captive uses
    rcases uses_cases c uses with older | rfl
    · exact orderly.apart c captive older
    · exact Nat.lt_irrefl _ (orderly.captive_lt captive)
  case lives =>
    intro t member c works
    rcases List.mem_cons.1 member with rfl | outer
    · obtain rfl : session.contexts.nextContext = c := Option.some.inj (own.symm.trans works)
      refine (congrArg Option.isSome (ContextStore.get?_enter session.contexts ctx _)).trans ?_
      rw [if_pos rfl, Option.isSome_some]
    · exact (still c (orderly.works_lt outer works)).trans (orderly.lives t outer c works)
  case nested =>
    refine nested_cons orderly.nested fun c ends t member works => ?_
    obtain rfl : session.contexts.nextContext = c := Closing.finish.inj ends
    exact Nat.lt_irrefl _ (orderly.works_lt member works)

theorem captives_insert (session : Session P) (contexts : ContextStore P) (name : String)
    (work : Deferred P) :
    ∃ front back, Session.captives { session with
        contexts
        deferred := Table.insert name work session.deferred } =
          front ++ work.captured.context.toList ++ back ∧
      (front ++ back).Sublist session.captives := by
  obtain ⟨front, back, split, kept⟩ := Table.insert_eq name work session.deferred
  refine ⟨front.filterMap (·.2.captured.context), back.filterMap (·.2.captured.context), ?_, ?_⟩
  · rw [Session.captives, split, List.filterMap_append, List.filterMap_cons, List.append_assoc]
    cases work.captured.context <;> rfl
  · rw [← List.filterMap_append]
    exact kept.filterMap _

theorem captive_insert {session : Session P} {contexts : ContextStore P} {name : String}
    {work : Deferred P} {c : Nat}
    (captive : c ∈ Session.captives { session with
      contexts
      deferred := Table.insert name work session.deferred }) :
    c ∈ session.captives ∨ work.captured.context = some c := by
  obtain ⟨front, back, split, old⟩ := captives_insert session contexts name work
  rw [split, List.mem_append, List.mem_append, Option.mem_toList] at captive
  rcases captive with (before | new) | after
  · exact .inl (old.subset (List.mem_append_left back before))
  · exact .inr new
  · exact .inl (old.subset (List.mem_append_right front after))

theorem Orderly.kept (orderly : Orderly ⟨frames, task, session⟩) {contexts : ContextStore P}
    (name : String) (work : Deferred P) (sound : contexts.Sound)
    (grown : session.contexts.nextContext ≤ contexts.nextContext)
    (still : ∀ c < session.contexts.nextContext, contexts.get? c = session.contexts.get? c)
    (own : ∀ c, work.captured.context = some c →
      c = session.contexts.nextContext ∧ (contexts.get? c).isSome) :
    Orderly ⟨frames, task, { session with
      contexts
      deferred := Table.insert name work session.deferred }⟩ := by
  constructor
  case sound => exact sound
  case used => exact fun c uses => Nat.lt_of_lt_of_le (orderly.used c uses) grown
  case captured =>
    intro c captive
    rcases captive_insert captive with older | new
    · exact (congrArg Option.isSome (still c (orderly.captive_lt older))).trans
        (orderly.captured c older)
    · exact (own c new).2
  case distinct =>
    obtain ⟨front, back, split, old⟩ := captives_insert session contexts name work
    dsimp only
    rw [split, List.append_assoc]
    refine List.nodup_append_comm.1 ?_
    rw [List.append_assoc]
    have rest : (back ++ front).Nodup := List.nodup_append_comm.1 (orderly.distinct.sublist old)
    cases captured : work.captured.context with
    | none => exact rest
    | some c =>
      change (c :: (back ++ front)).Nodup
      refine List.nodup_cons.2 ⟨fun member => ?_, rest⟩
      have older : c ∈ session.captives :=
        old.subset (List.mem_append.2 (List.mem_append.1 member).symm)
      have below := orderly.captive_lt older
      rw [(own c captured).1] at below
      exact Nat.lt_irrefl _ below
  case apart =>
    intro c captive uses
    rcases captive_insert captive with older | new
    · exact orderly.apart c older uses
    · have below := orderly.used c uses
      rw [(own c new).1] at below
      exact Nat.lt_irrefl _ below
  case lives =>
    intro t member c works
    exact (congrArg Option.isSome (still c (orderly.works_lt member works))).trans
      (orderly.lives t member c works)
  case nested => exact orderly.nested

theorem Orderly.defer (orderly : Orderly ⟨frames, task, session⟩) (name : String)
    (body : List (Step P)) : Orderly ⟨frames, task, session.defer task name body⟩ := by
  rw [Session.defer, Task.capture_eq]
  cases seen : task.current session.contexts with
  | none =>
    exact orderly.kept name _ orderly.sound (Nat.le_refl _) (fun _ _ => rfl)
      fun c captured => nomatch captured
  | some ctx =>
    obtain ⟨context, -, live⟩ := Option.bind_eq_some_iff.1 seen
    refine orderly.kept name _ (orderly.sound.begin (.inr ⟨context, live⟩))
      (Nat.le_succ _) (fun _ old => ContextStore.get?_enter_of_lt old) fun c captured => ?_
    obtain rfl : session.contexts.nextContext = c := Option.some.inj captured
    refine ⟨rfl, ?_⟩
    rw [ContextStore.get?_enter, if_pos rfl, Option.isSome_some]

/-- Work that is begun owns its captured context alone. -/
theorem captives_erase {session : Session P} {name : String} {work : Deferred P}
    (kept : Table.find? name session.deferred = some work) :
    ∃ front back, session.captives = front ++ work.captured.context.toList ++ back ∧
      Session.captives { session with deferred := Table.erase name session.deferred } =
        front ++ back := by
  obtain ⟨front, back, split, erased⟩ := Table.erase_of_find? kept
  refine ⟨front.filterMap (·.2.captured.context), back.filterMap (·.2.captured.context), ?_, ?_⟩
  · rw [Session.captives, split, List.filterMap_append, List.filterMap_cons, List.append_assoc]
    cases work.captured.context <;> rfl
  · rw [Session.captives, erased, List.filterMap_append]

theorem Orderly.resume (orderly : Orderly ⟨frames, task, session⟩) {name : String}
    {work : Deferred P} (kept : Table.find? name session.deferred = some work) :
    Orderly ⟨⟨task, .of work.captured⟩ :: frames, work.captured.resume task,
      { session with deferred := Table.erase name session.deferred }⟩ := by
  obtain ⟨front, back, split, remaining⟩ := captives_erase kept
  have uses_cases (c : Nat)
      (uses : Uses ⟨⟨task, .of work.captured⟩ :: frames, work.captured.resume task,
        { session with deferred := Table.erase name session.deferred }⟩ c) :
      Uses ⟨frames, task, session⟩ c ∨ work.captured.context = some c := by
    rcases uses with ⟨t, member, works⟩ | ⟨frame, member, about⟩ | held
    · rcases List.mem_cons.1 member with rfl | outer
      · rw [Task.context_resume, Option.or_eq_some_iff] at works
        rcases works with own | ⟨-, same⟩
        · exact .inr own
        · exact .inl (.inl ⟨task, List.mem_cons_self, same⟩)
      · exact .inl (.inl ⟨t, outer, works⟩)
    · rcases List.mem_cons.1 member with rfl | before
      · exact .inr ((Closing.context?_of work.captured).symm.trans about)
      · exact .inl (.inr (.inl ⟨frame, before, about⟩))
    · exact .inl (.inr (.inr held))
  have disjoint := orderly.distinct
  rw [split, List.append_assoc] at disjoint
  constructor
  case sound => exact orderly.sound
  case used =>
    intro c uses
    rcases uses_cases c uses with before | own
    · exact orderly.used c before
    · exact orderly.captive_lt (Session.captive_of_find? kept own)
  case captured => exact fun c captive => orderly.captured c (Session.captive_of_erase captive)
  case distinct =>
    rw [remaining]
    exact disjoint.sublist ((List.Sublist.refl front).append (List.sublist_append_right _ back))
  case apart =>
    intro c captive uses
    rcases uses_cases c uses with before | own
    · exact orderly.apart c (Session.captive_of_erase captive) before
    · rw [remaining, List.mem_append] at captive
      rw [own, Option.toList_some, List.singleton_append, List.nodup_middle] at disjoint
      exact (List.nodup_cons.1 disjoint).1 (List.mem_append.2 captive)
  case lives =>
    intro t member c works
    rcases List.mem_cons.1 member with rfl | outer
    · rw [Task.context_resume, Option.or_eq_some_iff] at works
      rcases works with own | ⟨-, same⟩
      · exact orderly.captured c (Session.captive_of_find? kept own)
      · exact orderly.lives task List.mem_cons_self c same
    · exact orderly.lives t outer c works
  case nested =>
    refine nested_cons orderly.nested fun c ends t member works => ?_
    have own : work.captured.context = some c :=
      (Closing.context?_of work.captured).symm.trans (congrArg Closing.context? ends)
    exact orderly.apart c (Session.captive_of_find? kept own) (.inl ⟨t, member, works⟩)

theorem Uses.leave {outer inner : Task} {closing : Closing} {c : Nat}
    (uses : Uses ⟨frames, outer, closing.close session⟩ c) :
    Uses ⟨⟨outer, closing⟩ :: frames, inner, session⟩ c := by
  rcases uses with ⟨t, member, works⟩ | ⟨frame, member, about⟩ | ⟨ticket, member, about⟩
  · exact .inl ⟨t, List.mem_cons_of_mem inner member, works⟩
  · exact .inr (.inl ⟨frame, List.mem_cons_of_mem _ member, about⟩)
  · exact .inr (.inr ⟨ticket, closing.held_close session ▸ member, about⟩)

theorem Orderly.leave {outer inner : Task} {closing : Closing}
    (orderly : Orderly ⟨⟨outer, closing⟩ :: frames, inner, session⟩) :
    Orderly ⟨frames, outer, closing.close session⟩ := by
  have captives : (closing.close session).captives = session.captives := by
    rw [Session.captives, Session.captives, closing.deferred_close]
  have still (c : Nat) (stays : closing ≠ .finish c) :
      ((closing.close session).contexts.get? c).isSome = (session.contexts.get? c).isSome := by
    have same := congrArg Option.isSome (Closing.callers_close stays session)
    rwa [Option.isSome_map, Option.isSome_map] at same
  constructor
  case sound => exact closing.sound_close orderly.sound
  case used =>
    intro c uses
    rw [closing.nextContext_close]
    exact orderly.used c uses.leave
  case captured =>
    intro c captive
    rw [captives] at captive
    refine (still c ?_).trans (orderly.captured c captive)
    rintro rfl
    exact orderly.apart c captive (.inr (.inl ⟨_, List.mem_cons_self, rfl⟩))
  case distinct => exact captives ▸ orderly.distinct
  case apart => exact fun c captive uses => orderly.apart c (captives ▸ captive) uses.leave
  case lives =>
    intro t member c works
    refine (still c ?_).trans (orderly.lives t (List.mem_cons_of_mem inner member) c works)
    rintro rfl
    rcases List.mem_cons.1 member with rfl | around
    · exact orderly.nested.1 c rfl _ List.mem_cons_self works
    · obtain ⟨frame, among, rfl⟩ := List.mem_map.1 around
      exact orderly.nested.1 c rfl frame (List.mem_cons_of_mem _ among) works
  case nested => exact orderly.nested.2

theorem Orderly.move {first next : Point P} (orderly : first.Orderly) (move : Move first next) :
    next.Orderly := by
  cases move with
  | within frames within => exact orderly.within within
  | defer frames task session name body => exact orderly.defer name body
  | inside frames session inner seen =>
    exact orderly.inside seen (.inl rfl) fun c same => nomatch same
  | enter frames inner ctx own origin => exact orderly.enter own origin
  | resume frames kept => exact orderly.resume kept
  | route frames own within =>
    exact (orderly.within within).inside (.inl rfl) (.inr own.symm) fun c same => nomatch same
  | leave frames outer task closing session => exact orderly.leave

theorem Orderly.leads {first later : Point P} (orderly : first.Orderly)
    (leads : Leads first later) : later.Orderly := by
  induction leads with
  | refl => exact orderly
  | tail earlier move ih => exact ih.move move

end Point

theorem nextContext_defer (task : Task) (session : Session P) (name : String)
    (body : List (Step P)) :
    session.contexts.nextContext ≤ (session.defer task name body).contexts.nextContext := by
  rw [Session.defer, Task.capture_eq]
  cases task.current session.contexts with
  | none => exact Nat.le_refl _
  | some ctx => exact Nat.le_succ _

theorem Move.nextContext_le {first next : Point P} (move : Move first next) :
    first.session.contexts.nextContext ≤ next.session.contexts.nextContext := by
  cases move with
  | within frames within => exact Nat.le_of_eq within.nextContext.symm
  | defer frames task session name body => exact nextContext_defer task session name body
  | inside frames session inner seen => exact Nat.le_refl _
  | enter frames inner ctx own origin => exact Nat.le_succ _
  | resume frames kept => exact Nat.le_refl _
  | route frames own within => exact Nat.le_of_eq within.nextContext.symm
  | leave frames outer task closing session =>
    exact Nat.le_of_eq (closing.nextContext_close session).symm

theorem Leads.nextContext_le {first later : Point P} (leads : Leads first later) :
    first.session.contexts.nextContext ≤ later.session.contexts.nextContext := by
  induction leads with
  | refl => exact Nat.le_refl _
  | tail earlier move ih => exact Nat.le_trans ih move.nextContext_le

theorem get?_defer {task : Task} {session : Session P} {name : String} {body : List (Step P)}
    {c : Nat} (old : c < session.contexts.nextContext) :
    (session.defer task name body).contexts.get? c = session.contexts.get? c := by
  rw [Session.defer, Task.capture_eq]
  cases task.current session.contexts with
  | none => rfl
  | some ctx => exact ContextStore.get?_enter_of_lt old

theorem captives_of_defer {task : Task} {session : Session P} {name : String}
    {body : List (Step P)} {c : Nat} (old : c < session.contexts.nextContext)
    (captive : c ∈ (session.defer task name body).captives) : c ∈ session.captives := by
  rw [Session.defer, Task.capture_eq] at captive
  cases seen : task.current session.contexts with
  | none =>
    rw [seen] at captive
    exact (Point.captive_insert captive).resolve_right fun captured => nomatch captured
  | some ctx =>
    rw [seen] at captive
    refine (Point.captive_insert captive).resolve_right fun captured => ?_
    exact Nat.ne_of_lt old (Option.some.inj captured).symm

theorem Move.captive {first next : Point P} (move : Move first next) {c : Nat}
    (old : c < first.session.contexts.nextContext) (captive : c ∈ next.session.captives) :
    c ∈ first.session.captives := by
  cases move with
  | within frames within => rwa [Session.captives, within.deferred] at captive
  | defer frames task session name body => exact captives_of_defer old captive
  | inside frames session inner seen => exact captive
  | enter frames inner ctx own origin => exact captive
  | resume frames kept => exact Session.captive_of_erase captive
  | route frames own within => rwa [Session.captives, within.deferred] at captive
  | leave frames outer task closing session =>
    rwa [Session.captives, closing.deferred_close] at captive

theorem Leads.captive {first later : Point P} (leads : Leads first later) {c : Nat}
    (old : c < first.session.contexts.nextContext) (captive : c ∈ later.session.captives) :
    c ∈ first.session.captives := by
  induction leads with
  | refl => exact captive
  | tail earlier move ih =>
    exact ih (move.captive (Nat.lt_of_lt_of_le old (Leads.nextContext_le earlier)) captive)

/-- While work is kept, nothing that happens changes the context it captured. -/
theorem Point.Orderly.get?_move {first next : Point P} (orderly : first.Orderly)
    (move : Move first next) {c : Nat} (captive : c ∈ first.session.captives) :
    next.session.contexts.get? c = first.session.contexts.get? c := by
  have apart := orderly.apart c captive
  have old := orderly.captive_lt captive
  have unmet {task : Task} {before after : Session P} {frames : List Frame}
      (within : Session.Local task before after) (apart : ¬Uses ⟨frames, task, before⟩ c) :
      after.contexts.get? c = before.contexts.get? c :=
    within.apart c (fun own => apart (.inl ⟨task, List.mem_cons_self, own⟩))
      fun ticket member about => apart (.inr (.inr ⟨ticket, member, about⟩))
  cases move with
  | within frames within => exact unmet within apart
  | defer frames task session name body => exact get?_defer old
  | inside frames session inner seen => rfl
  | enter frames inner ctx own origin => exact ContextStore.get?_enter_of_lt old
  | resume frames kept => rfl
  | route frames own within => exact unmet within apart
  | leave frames outer task closing session =>
    exact Closing.get?_close fun about => apart (.inr (.inl ⟨_, List.mem_cons_self, about⟩))

theorem Point.Orderly.get?_leads {first later : Point P} (orderly : first.Orderly)
    (leads : Leads first later) {c : Nat} (old : c < first.session.contexts.nextContext)
    (captive : c ∈ later.session.captives) :
    later.session.contexts.get? c = first.session.contexts.get? c := by
  induction leads with
  | refl => rfl
  | tail earlier move ih =>
    have known := Nat.lt_of_lt_of_le old (Leads.nextContext_le earlier)
    have before := move.captive known captive
    exact ((orderly.leads earlier).get?_move move before).trans (ih before)

theorem Reached.orderly {point : Point P} (reached : Reached point) : point.Orderly := by
  obtain ⟨router, leads⟩ := reached
  exact (Point.Orderly.start router).leads leads

end RowGuard.Script
