import Mathlib.Data.List.Nodup
import RowGuard.Context.Store
/-!
What has been done to contexts, put down from the events alone. Contexts are numbered as they are
started and entries as they are pushed, and the history of a context says what must stand on its
stack, whatever the contexts themselves answer.
-/
namespace RowGuard

/-- What can be done to contexts. Tickets are named by how many pushes came before theirs. -/
inductive ContextEvent (P : Type) where
  /-- A new context, perhaps in the place of an older one, which ends. -/
  | start (caller : Caller) (replaced : Option Nat)
  | copy (source : Nat) (replaced : Option Nat)
  | finish (context : Nat)
  | push (context : Nat) (key : String) (pool : Option (PoolHandle P))
  | pop (context : Nat)
  | release (issue : Nat)

inductive ContextFact (P : Type) where
  | entered (context : Nat) (inherited : List (Selection P))
  | ended (context : Nat)
  | pushed (ticket : Ticket) (own : Selection P)
  /-- An entry came off a stack, by a pop or by its ticket. -/
  | taken (context entry : Nat)

namespace ContextFact

variable {P : Type}

def context : ContextFact P → Nat
  | entered context _ => context
  | ended context => context
  | pushed ticket _ => ticket.context
  | taken context _ => context

def starts : ContextFact P → List Nat
  | entered context _ => [context]
  | _ => []

def ends : ContextFact P → List Nat
  | ended context => [context]
  | _ => []

def issues : ContextFact P → List (Ticket × Selection P)
  | pushed ticket own => [(ticket, own)]
  | _ => []

/-- Entries that came off a stack, with the context the stack belongs to. -/
def removals : ContextFact P → List (Nat × Nat)
  | taken context entry => [(context, entry)]
  | _ => []

def inheritedBy (c : Nat) : ContextFact P → List (Selection P)
  | entered context inherited => if context = c then inherited else []
  | _ => []

def pushedOn (c : Nat) : ContextFact P → List (Selection P)
  | pushed ticket own => if ticket.context = c then [own] else []
  | _ => []

variable {f : ContextFact P} {c entry : Nat}

theorem inheritedBy_apart (apart : f.context ≠ c) : f.inheritedBy c = [] := by
  cases f with
  | entered => exact if_neg apart
  | _ => rfl

theorem pushedOn_apart (apart : f.context ≠ c) : f.pushedOn c = [] := by
  cases f with
  | pushed => exact if_neg apart
  | _ => rfl

theorem context_of_removals (removed : (c, entry) ∈ f.removals) : f.context = c := by
  cases f with
  | taken context other =>
    cases List.mem_singleton.1 removed
    rfl
  | _ => cases removed

theorem context_of_starts (started : c ∈ f.starts) : f.context = c := by
  cases f with
  | entered context inherited => exact (List.mem_singleton.1 started).symm
  | _ => cases started

theorem context_of_ends (ended : c ∈ f.ends) : f.context = c := by
  cases f with
  | ended context => exact (List.mem_singleton.1 ended).symm
  | _ => cases ended

end ContextFact

/-- What has happened so far, the earliest first. -/
structure ContextHistory (P : Type) where
  facts : List (ContextFact P) := []

namespace ContextHistory

variable {P : Type}

def contexts (h : ContextHistory P) : Nat := (h.facts.flatMap (·.starts)).length

/-- The tickets issued so far with the entries they are for, in the order of the pushes. -/
def issued (h : ContextHistory P) : List (Ticket × Selection P) := h.facts.flatMap (·.issues)

def pushes (h : ContextHistory P) : Nat := h.issued.length

def removals (h : ContextHistory P) : List (Nat × Nat) := h.facts.flatMap (·.removals)

/-- The stack a context must have: what it inherited, then what was pushed on it, without what was
popped from it and what its own tickets released. -/
def recorded (h : ContextHistory P) (c : Nat) : List (Selection P) :=
  (h.facts.flatMap (·.inheritedBy c) ++ h.facts.flatMap (·.pushedOn c)).filter
    fun s => (c, s.entry) ∉ h.removals

/-- Whether a context was started and has not ended. -/
def Lives (h : ContextHistory P) (c : Nat) : Prop :=
  c ∈ h.facts.flatMap (·.starts) ∧ c ∉ h.facts.flatMap (·.ends)

instance (h : ContextHistory P) (c : Nat) : Decidable (h.Lives c) :=
  inferInstanceAs (Decidable (_ ∧ _))

/-- Whether the entry of a ticket still stands on the context that issued it. -/
def Holds (h : ContextHistory P) (ticket : Ticket) : Prop :=
  h.Lives ticket.context ∧ ticket.entry ∈ (h.recorded ticket.context).map (·.entry)

instance (h : ContextHistory P) (ticket : Ticket) : Decidable (h.Holds ticket) :=
  inferInstanceAs (Decidable (_ ∧ _))

def add (h : ContextHistory P) (f : ContextFact P) : ContextHistory P := ⟨h.facts ++ [f]⟩

def leave (h : ContextHistory P) (context : Nat) : ContextHistory P :=
  if h.Lives context then h.add (.ended context) else h

def leaveAny (h : ContextHistory P) : Option Nat → ContextHistory P
  | none => h
  | some context => h.leave context

def push (h : ContextHistory P) (context : Nat) (key : String) (pool : Option (PoolHandle P)) :
    ContextHistory P :=
  h.add (.pushed ⟨h.pushes, context, key⟩ ⟨h.pushes, key, pool⟩)

def pop (h : ContextHistory P) (context : Nat) : ContextHistory P :=
  match (h.recorded context).getLast? with
  | none => h
  | some top => h.add (.taken context top.entry)

def release (h : ContextHistory P) (ticket : Ticket) : ContextHistory P :=
  if h.Holds ticket then h.add (.taken ticket.context ticket.entry) else h

/-- Puts an event down. There is nothing to put down where its context or its ticket does not
exist. -/
def next (h : ContextHistory P) : ContextEvent P → ContextHistory P
  | .start _ replaced => (h.add (.entered h.contexts [])).leaveAny replaced
  | .copy source replaced =>
    if h.Lives source then (h.add (.entered h.contexts (h.recorded source))).leaveAny replaced
    else h
  | .finish context => h.leave context
  | .push context key pool => if h.Lives context then h.push context key pool else h
  | .pop context => if h.Lives context then h.pop context else h
  | .release issue =>
    match h.issued[issue]? with
    | none => h
    | some (ticket, _) => h.release ticket

def of (events : List (ContextEvent P)) : ContextHistory P := events.foldl next {}

/-- Whether an event is about a context that is there already. Copying a context is not. -/
def Touches (h : ContextHistory P) (c : Nat) : ContextEvent P → Prop
  | .start _ replaced => replaced = some c
  | .copy _ replaced => replaced = some c
  | .finish context => context = c
  | .push context _ _ => context = c
  | .pop context => context = c
  | .release issue => ∃ p, h.issued[issue]? = some p ∧ p.1.context = c

variable {h : ContextHistory P} {f : ContextFact P} {c : Nat}

theorem contexts_add : (h.add f).contexts = h.contexts + f.starts.length := by
  simp [contexts, add]

theorem issued_add : (h.add f).issued = h.issued ++ f.issues := by
  simp [issued, add]

theorem pushes_add : (h.add f).pushes = h.pushes + f.issues.length := by
  rw [pushes, issued_add, List.length_append, pushes]

theorem removals_add : (h.add f).removals = h.removals ++ f.removals := by
  simp [removals, add]

theorem lives_add :
    (h.add f).Lives c ↔ (c ∈ h.facts.flatMap (·.starts) ∨ c ∈ f.starts) ∧
      c ∉ h.facts.flatMap (·.ends) ∧ c ∉ f.ends := by
  simp [Lives, add]

theorem lives_ended {context : Nat} :
    (h.add (.ended context)).Lives c ↔ c ≠ context ∧ h.Lives c := by
  rw [lives_add]
  simp only [ContextFact.starts, ContextFact.ends, Lives, List.not_mem_nil, List.mem_singleton,
    or_false]
  tauto

theorem lives_same (starts : f.starts = []) (ends : f.ends = []) :
    (h.add f).Lives c ↔ h.Lives c := by
  rw [lives_add, starts, ends]
  simp [Lives]

theorem recorded_add :
    (h.add f).recorded c =
      ((h.facts.flatMap (·.inheritedBy c) ++ f.inheritedBy c) ++
        (h.facts.flatMap (·.pushedOn c) ++ f.pushedOn c)).filter
          fun s => (c, s.entry) ∉ h.removals ++ f.removals := by
  rw [← removals_add]
  simp [recorded, add]

theorem recorded_apart (apart : f.context ≠ c) : (h.add f).recorded c = h.recorded c := by
  rw [recorded_add, ContextFact.inheritedBy_apart apart, ContextFact.pushedOn_apart apart,
    List.append_nil, List.append_nil, recorded]
  congr 1
  funext s
  have elsewhere : (c, s.entry) ∉ f.removals := fun removed =>
    apart (ContextFact.context_of_removals removed)
  simp [elsewhere]

theorem recorded_ended {context : Nat} :
    (h.add (.ended context)).recorded c = h.recorded c := by
  rw [recorded_add]
  simp [recorded, ContextFact.inheritedBy, ContextFact.pushedOn, ContextFact.removals]

theorem recorded_pushed {ticket : Ticket} {own : Selection P}
    (fresh : (ticket.context, own.entry) ∉ h.removals) :
    (h.add (.pushed ticket own)).recorded ticket.context = h.recorded ticket.context ++ [own] := by
  rw [recorded_add]
  simp [recorded, ContextFact.inheritedBy, ContextFact.pushedOn, ContextFact.removals, fresh]

theorem recorded_taken {entry : Nat} :
    (h.add (.taken c entry)).recorded c = (h.recorded c).filter (·.entry ≠ entry) := by
  rw [recorded_add, recorded, List.filter_filter]
  simp only [ContextFact.inheritedBy, ContextFact.pushedOn, ContextFact.removals, List.append_nil,
    List.mem_append, List.mem_singleton, Prod.mk.injEq, true_and, not_or]
  congr 1
  funext s
  simp [and_comm]

theorem not_removed_of_recorded {s : Selection P} (member : s ∈ h.recorded c) :
    (c, s.entry) ∉ h.removals :=
  of_decide_eq_true (List.mem_filter.1 member).2

/-- Contexts are numbered as they are started and entries as they are pushed; no entry is on any
stack that was not pushed, and none comes off one stack twice. -/
structure Ordered (h : ContextHistory P) : Prop where
  contexts : ∀ f ∈ h.facts, f.context < h.contexts
  tickets : ∀ p ∈ h.issued, p.1.entry = p.2.entry
  entries : h.issued.map (·.2.entry) = List.range h.pushes
  origin : ∀ c, ∀ s ∈ h.recorded c, s ∈ h.issued.map Prod.snd
  removed : ∀ p ∈ h.removals, p.2 < h.pushes
  once : h.removals.Nodup

namespace Ordered

theorem empty : Ordered ({} : ContextHistory P) where
  contexts _ member := nomatch member
  tickets _ member := nomatch member
  entries := rfl
  origin _ _ member := nomatch member
  removed _ member := nomatch member
  once := .nil

theorem issued_lt (ordered : h.Ordered) {s : Selection P} (member : s ∈ h.issued.map Prod.snd) :
    s.entry < h.pushes := by
  have number := List.mem_map_of_mem (f := Selection.entry) member
  rw [List.map_map] at number
  exact List.mem_range.1 (ordered.entries ▸ number)

theorem lives_lt (ordered : h.Ordered) (live : h.Lives c) : c < h.contexts := by
  obtain ⟨f, earlier, started⟩ := List.mem_flatMap.1 live.1
  exact ContextFact.context_of_starts started ▸ ordered.contexts f earlier

theorem not_removed (ordered : h.Ordered) : (c, h.pushes) ∉ h.removals :=
  fun member => Nat.lt_irrefl _ (ordered.removed _ member)

theorem unused (ordered : h.Ordered) {α : Type} {part : ContextFact P → List α}
    (about : ∀ f, f.context ≠ h.contexts → part f = []) : h.facts.flatMap part = [] := by
  rw [List.flatMap_eq_nil_iff]
  exact fun f member => about f (Nat.ne_of_lt (ordered.contexts f member))

theorem lives_entered (ordered : h.Ordered) {stack : List (Selection P)} :
    (h.add (.entered h.contexts stack)).Lives c ↔ c = h.contexts ∨ h.Lives c := by
  have fresh : h.contexts ∉ h.facts.flatMap (·.ends) := by
    intro member
    obtain ⟨f, earlier, ended⟩ := List.mem_flatMap.1 member
    exact Nat.ne_of_lt (ordered.contexts f earlier) (ContextFact.context_of_ends ended)
  rw [lives_add]
  by_cases new : c = h.contexts
  · simpa [ContextFact.starts, ContextFact.ends, new] using fresh
  · simp [Lives, ContextFact.starts, ContextFact.ends, new]

theorem recorded_entered (ordered : h.Ordered) {stack : List (Selection P)} :
    (h.add (.entered h.contexts stack)).recorded h.contexts = stack := by
  have kept (s : Selection P) : (h.contexts, s.entry) ∉ h.removals := by
    intro member
    obtain ⟨f, earlier, removed⟩ := List.mem_flatMap.1 member
    exact Nat.ne_of_lt (ordered.contexts f earlier) (ContextFact.context_of_removals removed)
  rw [recorded_add, ordered.unused fun _ apart => ContextFact.inheritedBy_apart apart,
    ordered.unused fun _ apart => ContextFact.pushedOn_apart apart]
  simp [ContextFact.inheritedBy, ContextFact.pushedOn, ContextFact.removals, kept]

/-- A fact that issues no ticket and takes off a stack at most what is on it. -/
theorem add (ordered : h.Ordered) (context : f.context < h.contexts + f.starts.length)
    (issues : f.issues = []) (nodup : f.removals.Nodup)
    (there : ∀ p ∈ f.removals, p.2 < h.pushes ∧ p ∉ h.removals)
    (origin : ∀ s ∈ (h.add f).recorded f.context, s ∈ h.issued.map Prod.snd) :
    (h.add f).Ordered := by
  have issued : (h.add f).issued = h.issued := by rw [issued_add, issues, List.append_nil]
  have pushes : (h.add f).pushes = h.pushes := congrArg List.length issued
  constructor
  case contexts =>
    rw [contexts_add]
    refine List.forall_mem_append.2 ⟨fun g earlier => ?_, List.forall_mem_singleton.2 context⟩
    exact Nat.lt_add_right _ (ordered.contexts g earlier)
  case tickets =>
    rw [issued]
    exact ordered.tickets
  case entries =>
    rw [issued, pushes]
    exact ordered.entries
  case origin =>
    intro c s member
    rw [issued]
    by_cases about : f.context = c
    · exact origin s (about ▸ member)
    · exact ordered.origin c s (recorded_apart about ▸ member)
  case removed =>
    rw [removals_add, pushes]
    exact List.forall_mem_append.2 ⟨ordered.removed, fun p member => (there p member).1⟩
  case once =>
    rw [removals_add]
    exact ordered.once.append nodup fun p earlier member => (there p member).2 earlier

theorem entered (ordered : h.Ordered) {stack : List (Selection P)}
    (origin : ∀ s ∈ stack, s ∈ h.issued.map Prod.snd) :
    (h.add (.entered h.contexts stack)).Ordered := by
  refine ordered.add (Nat.lt_succ_self _) rfl .nil (fun _ removed => nomatch removed) ?_
  intro s member
  rw [ContextFact.context, ordered.recorded_entered] at member
  exact origin s member

theorem leave (ordered : h.Ordered) (context : Nat) : (h.leave context).Ordered := by
  unfold ContextHistory.leave
  split
  · next live =>
    refine ordered.add (ordered.lives_lt live) rfl .nil (fun _ removed => nomatch removed) ?_
    intro s member
    rw [ContextFact.context, recorded_ended] at member
    exact ordered.origin context s member
  · exact ordered

theorem leaveAny (ordered : h.Ordered) : (context : Option Nat) → (h.leaveAny context).Ordered
  | none => ordered
  | some context => ordered.leave context

theorem taken (ordered : h.Ordered) {s : Selection P} (live : h.Lives c)
    (member : s ∈ h.recorded c) : (h.add (.taken c s.entry)).Ordered := by
  have there : s.entry < h.pushes ∧ (c, s.entry) ∉ h.removals :=
    ⟨ordered.issued_lt (ordered.origin c s member), not_removed_of_recorded member⟩
  refine ordered.add (ordered.lives_lt live) rfl (List.nodup_singleton _)
    (List.forall_mem_singleton.2 there) ?_
  intro other remains
  rw [ContextFact.context, recorded_taken] at remains
  exact ordered.origin c other (List.mem_of_mem_filter remains)

theorem push (ordered : h.Ordered) (live : h.Lives c) (key : String)
    (pool : Option (PoolHandle P)) : (h.push c key pool).Ordered := by
  let own : Selection P := ⟨h.pushes, key, pool⟩
  have issued : (h.push c key pool).issued = h.issued ++ [(⟨h.pushes, c, key⟩, own)] := issued_add
  have pushes : (h.push c key pool).pushes = h.pushes + 1 := pushes_add
  have removals : (h.push c key pool).removals = h.removals :=
    removals_add.trans (List.append_nil _)
  constructor
  case contexts =>
    exact List.forall_mem_append.2 ⟨fun f earlier => contexts_add ▸ ordered.contexts f earlier,
      List.forall_mem_singleton.2 (contexts_add ▸ ordered.lives_lt live)⟩
  case tickets =>
    rw [issued]
    exact List.forall_mem_append.2 ⟨ordered.tickets, List.forall_mem_singleton.2 rfl⟩
  case entries =>
    rw [issued, pushes, List.range_succ, List.map_append, ordered.entries]
    rfl
  case origin =>
    intro context s member
    rw [issued, List.map_append, List.mem_append]
    by_cases about : c = context
    · rw [← about, ContextHistory.push, recorded_pushed (ordered.not_removed), List.mem_append]
        at member
      exact member.imp (ordered.origin c s) id
    · have same : (h.push c key pool).recorded context = h.recorded context :=
        recorded_apart about
      exact .inl (ordered.origin context s (same ▸ member))
  case removed =>
    rw [removals, pushes]
    exact fun p member => Nat.lt_succ_of_lt (ordered.removed p member)
  case once =>
    rw [removals]
    exact ordered.once

theorem pop (ordered : h.Ordered) (live : h.Lives c) : (h.pop c).Ordered := by
  unfold ContextHistory.pop
  split
  · exact ordered
  · next top last => exact ordered.taken live (List.mem_of_getLast? last)

theorem release (ordered : h.Ordered) (ticket : Ticket) : (h.release ticket).Ordered := by
  unfold ContextHistory.release
  split
  · next holds =>
    obtain ⟨s, member, same⟩ := List.mem_map.1 holds.2
    rw [← same]
    exact ordered.taken holds.1 member
  · exact ordered

theorem next (ordered : h.Ordered) (event : ContextEvent P) : (h.next event).Ordered := by
  cases event with
  | start caller replaced =>
    have nothing : ∀ s ∈ ([] : List (Selection P)), s ∈ h.issued.map Prod.snd :=
      fun _ member => nomatch member
    exact (ordered.entered nothing).leaveAny replaced
  | copy source replaced =>
    rw [ContextHistory.next]
    split
    · exact (ordered.entered (ordered.origin source)).leaveAny replaced
    · exact ordered
  | finish context => exact ordered.leave context
  | push context key pool =>
    rw [ContextHistory.next]
    split
    · next live => exact ordered.push live key pool
    · exact ordered
  | pop context =>
    rw [ContextHistory.next]
    split
    · next live => exact ordered.pop live
    · exact ordered
  | release issue =>
    rw [ContextHistory.next]
    split
    · exact ordered
    · next ticket own issued => exact ordered.release ticket

theorem own_of_entry (ordered : h.Ordered) {ticket : Ticket} {own s : Selection P}
    (issue : (ticket, own) ∈ h.issued) (member : s ∈ h.issued.map Prod.snd)
    (same : s.entry = ticket.entry) : s = own := by
  obtain ⟨other, issued, rfl⟩ := List.mem_map.1 member
  have number : other.2.entry = own.entry := same.trans (ordered.tickets _ issue)
  have distinct : (h.issued.map (·.2.entry)).Nodup := ordered.entries ▸ List.nodup_range
  rw [List.inj_on_of_nodup_map distinct issued issue number]

end Ordered

end ContextHistory

end RowGuard
