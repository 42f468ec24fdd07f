import Mathlib.Data.List.Induction
import RowGuard.Proofs.DataSource.Router
/-!
What a registry shows of itself. Its keys, the pools it has for them and its size are views of one
table, and agree after any history of requests and removals. The view that tells whether a key has a
pool denies it for blank keys, although requests register pools under these as under any other key;
it agrees with the rest as long as no pool was created under a blank key.
-/
namespace RowGuard

/-- What can be asked of a registry. Every request for a pool brings its own way of creating one,
which may fail. -/
inductive RegistryEvent (P : Type) where
  | obtain (key : String) (create : Unit → Guarded P)
  | remove (key : String)

namespace Registry

variable {P : Type} {registry : Registry P}

def step (registry : Registry P) : RegistryEvent P → Registry P
  | .obtain key create => (registry.obtain (m := Id) key (create ())).run.2
  | .remove key => (registry.remove key).2

def run (registry : Registry P) (events : List (RegistryEvent P)) : Registry P :=
  events.foldl step registry

def Provides (event : RegistryEvent P) (key : String) : Prop :=
  ∃ create pool, event = .obtain key create ∧ create () = .ok pool

/-- Whether a key was provided with a pool in a history and not removed since. -/
def Kept (events : List (RegistryEvent P)) (key : String) : Prop :=
  ∃ before event after, events = before ++ event :: after ∧ Provides event key ∧
    .remove key ∉ after

theorem run_concat (events : List (RegistryEvent P)) (event : RegistryEvent P) :
    registry.run (events ++ [event]) = (registry.run events).step event :=
  List.foldl_append

theorem step_obtain (registry : Registry P) (key : String) (create : Unit → Guarded P) :
    registry.step (.obtain key create) =
      match registry.get? key, create () with
      | none, .ok pool => registry.insert key pool
      | _, _ => registry := by
  rw [step, Registry.obtain]
  cases registry.get? key with
  | some pool => rfl
  | none =>
    dsimp only
    rw [Id.run_bind]
    cases create () <;> rfl

theorem get?_step_obtain (registry : Registry P) (own key : String)
    (create : Unit → Guarded P) :
    (registry.step (.obtain own create)).get? key =
      if key = own then (registry.get? key).or (create ()).toOption else registry.get? key := by
  rw [step_obtain]
  by_cases same : key = own
  · rw [if_pos same, same]
    cases found : registry.get? own with
    | some pool => exact found
    | none =>
      cases create () with
      | error reason => exact found
      | ok pool => exact (get?_insert registry own own pool).trans (if_pos rfl)
  · rw [if_neg same]
    cases registry.get? own with
    | some pool => rfl
    | none =>
      cases create () with
      | error reason => rfl
      | ok pool => exact (get?_insert registry own key pool).trans (if_neg same)

theorem ascending_step (ascending : registry.pools.Ascending) (event : RegistryEvent P) :
    (registry.step event).pools.Ascending := by
  cases event with
  | remove key => exact ascending_remove ascending key
  | obtain key create =>
    rw [step_obtain]
    cases registry.get? key with
    | some pool => exact ascending
    | none =>
      cases create () with
      | error reason => exact ascending
      | ok pool => exact ascending.insert key pool

theorem ascending_run (events : List (RegistryEvent P)) :
    (run {} events : Registry P).pools.Ascending := by
  induction events using List.reverseRecOn with
  | nil => exact List.Pairwise.nil
  | append_singleton events event ih =>
    rw [run_concat]
    exact ascending_step ih event

theorem isSome_step (ascending : registry.pools.Ascending) (event : RegistryEvent P)
    (key : String) :
    ((registry.step event).get? key).isSome = true ↔
      Provides event key ∨ ((registry.get? key).isSome = true ∧ event ≠ .remove key) := by
  cases event with
  | obtain own create =>
    have provides : Provides (.obtain own create) key ↔
        own = key ∧ ∃ pool, create () = .ok pool := by
      constructor
      · rintro ⟨_, pool, same, made⟩
        cases same
        exact ⟨rfl, pool, made⟩
      · rintro ⟨rfl, pool, made⟩
        exact ⟨create, pool, rfl, made⟩
    rw [get?_step_obtain, provides]
    by_cases same : key = own
    · subst same
      cases create () <;> simp [Except.toOption]
    · simp [same, Ne.symm same]
  | remove own =>
    have quiet : ¬Provides (.remove own : RegistryEvent P) key := by
      rintro ⟨create, pool, same, -⟩
      cases same
    have after := get?_remove ascending own key
    rw [step, after, or_iff_right quiet]
    by_cases same : key = own
    · simp [same]
    · simp [same, Ne.symm same]

theorem kept_concat {events : List (RegistryEvent P)} {event : RegistryEvent P} {key : String} :
    Kept (events ++ [event]) key ↔
      Provides event key ∨ (Kept events key ∧ event ≠ .remove key) := by
  constructor
  · rintro ⟨before, provider, after, split, provides, kept⟩
    rcases List.eq_nil_or_concat after with rfl | ⟨front, last, rfl⟩
    · obtain ⟨-, same⟩ := List.append_inj' split rfl
      cases same
      exact .inl provides
    · rw [List.concat_eq_append] at split kept
      have whole : events ++ [event] = (before ++ provider :: front) ++ [last] := by
        rw [split, List.append_assoc, List.cons_append]
      obtain ⟨rfl, same⟩ := List.append_inj' whole rfl
      cases same
      refine .inr ⟨⟨before, provider, front, rfl, provides, fun member => kept ?_⟩, ?_⟩
      · exact List.mem_append_left _ member
      · rintro rfl
        exact kept (List.mem_append_right _ List.mem_cons_self)
  · rintro (provides | ⟨⟨before, provider, after, rfl, provides, kept⟩, other⟩)
    · exact ⟨events, event, [], rfl, provides, List.not_mem_nil⟩
    · refine ⟨before, provider, after ++ [event], by simp, provides, fun member => ?_⟩
      rcases List.mem_append.1 member with among | last
      · exact kept among
      · exact other (List.mem_singleton.1 last).symm

theorem isSome_run (events : List (RegistryEvent P)) (key : String) :
    ((run {} events).get? key).isSome = true ↔ Kept events key := by
  induction events using List.reverseRecOn with
  | nil =>
    refine iff_of_false (by intro found; cases found) ?_
    rintro ⟨before, event, after, split, -⟩
    simp at split
  | append_singleton events event ih =>
    rw [run_concat, isSome_step (ascending_run events), ih, kept_concat]

theorem mem_keys (registry : Registry P) (key : String) :
    key ∈ registry.keys ↔ (registry.get? key).isSome = true :=
  Table.mem_keys

theorem contains_iff (registry : Registry P) (key : String) :
    registry.contains key = true ↔
      Text.isBlankText key = false ∧ (registry.get? key).isSome = true := by
  unfold contains
  rw [Bool.and_eq_true, Bool.not_eq_true']
  exact Iff.rfl

/-- The views of a registry after any history. A pool is got for exactly the keys that are listed,
which are those that were provided with a pool and not removed since; they stand in strictly
ascending order, and there are as many as the registry has pools. A key is said to have a pool if
it is listed and not blank. So all views agree, and no blank key is listed, if no pool was created
under a blank key. -/
theorem registry_views_agree (events : List (RegistryEvent P)) :
    let registry := run {} events
    (∀ key, (registry.get? key).isSome = true ↔ key ∈ registry.keys) ∧
    (∀ key, key ∈ registry.keys ↔ Kept events key) ∧
    registry.keys.Pairwise (· < ·) ∧ registry.keys.length = registry.size ∧
    (∀ key, registry.contains key = true ↔
      Text.isBlankText key = false ∧ key ∈ registry.keys) ∧
    ((∀ event ∈ events, ∀ key, Provides event key → Text.isBlankText key = false) →
      ∀ key, (registry.contains key = true ↔ key ∈ registry.keys) ∧
        (key ∈ registry.keys → Text.isBlankText key = false)) := by
  intro registry
  have listed : ∀ key, key ∈ registry.keys ↔ Kept events key := fun key =>
    (registry.mem_keys key).trans (isSome_run events key)
  have shown : ∀ key, registry.contains key = true ↔
      Text.isBlankText key = false ∧ key ∈ registry.keys := fun key =>
    (registry.contains_iff key).trans (and_congr_right fun _ => (registry.mem_keys key).symm)
  refine ⟨fun key => (registry.mem_keys key).symm, listed, ascending_run events,
    List.length_map .., shown, fun visible key => ?_⟩
  have seen : key ∈ registry.keys → Text.isBlankText key = false := by
    intro member
    obtain ⟨before, event, after, split, provides, -⟩ := (listed key).1 member
    exact visible event (by simp [split]) key provides
  exact ⟨(shown key).trans (and_iff_right_of_imp seen), seen⟩

/-- Two keys are registered, one of them is removed, and under a blank key creation fails. -/
theorem registry_views_agree_failed :
    let events : List (RegistryEvent String) :=
      [.obtain "5" fun _ => .ok "a", .obtain " " fun _ => .error .noActiveContext,
        .obtain "10" fun _ => .ok "b", .remove "5"]
    let registry := run {} events
    (∀ event ∈ events, ∀ key, Provides event key → Text.isBlankText key = false) ∧
      registry.keys = ["10"] ∧
      (registry.contains "10" = true ↔ "10" ∈ registry.keys) ∧
      (registry.contains " " = true ↔ " " ∈ registry.keys) := by
  intro events registry
  have visible : ∀ event ∈ events, ∀ key, Provides event key → Text.isBlankText key = false := by
    intro event member key provides
    obtain ⟨create, pool, rfl, made⟩ := provides
    simp only [events, List.mem_cons, List.not_mem_nil, RegistryEvent.obtain.injEq, reduceCtorEq,
      or_false] at member
    rcases member with ⟨rfl, rfl⟩ | ⟨rfl, rfl⟩ | ⟨rfl, rfl⟩
    · decide
    · cases made
    · decide
  have agree := (registry_views_agree events).2.2.2.2.2 visible
  exact ⟨visible, by decide, (agree "10").1, (agree " ").1⟩

/-- Under a blank key a pool is registered and got, while the key is said to have none. -/
theorem blank_key_is_registered :
    let registry := run {} [.obtain " " fun _ => .ok "pool"]
    registry.keys = [" "] ∧ registry.get? " " = some "pool" ∧ registry.contains " " = false ∧
      ¬(registry.contains " " = true ↔ " " ∈ registry.keys) ∧
      ¬∀ key ∈ registry.keys, Text.isBlankText key = false := by
  decide

end Registry

end RowGuard
