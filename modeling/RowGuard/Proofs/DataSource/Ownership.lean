import RowGuard.Proofs.DataSource.Router
/-!
Pools that belong to one key for good. A factory that never makes one pool twice gives every pool a
number of its own, and numbers go up; so a pool that was made for one key is not registered for
another, neither now nor later.
-/
namespace RowGuard

variable {P : Type} {factory : PoolFactory P}

def PoolFactory.Distinct (factory : PoolFactory P) : Prop :=
  ∀ (m n : Nat) (source other : DataSource) (pool : P),
    factory m source = .ok pool → factory n other = .ok pool → m = n

def PoolFactory.numbered (factory : PoolFactory P) : PoolFactory (Nat × P) :=
  fun n source => (factory n source).map (n, ·)

theorem PoolFactory.numbered_distinct (factory : PoolFactory P) : factory.numbered.Distinct := by
  intro m n source other pool first second
  unfold numbered at first second
  cases one : factory m source with
  | error e => rw [one] at first; cases first
  | ok made =>
    cases two : factory n other with
    | error e => rw [two] at second; cases second
    | ok again =>
      rw [one] at first
      rw [two] at second
      cases first
      cases second
      rfl

namespace Router

/-- A pool that was made and is registered under no other key. -/
structure Owned (factory : PoolFactory P) (router : Router P) (key : String) (pool : P) : Prop where
  made : ∃ n < router.created, ∃ source, factory n source = .ok pool
  alone : ∀ other, router.registry.get? other = some pool → other = key

/-- Every pool was made by the factory and belongs to one key. A router without pools is such a
router. -/
structure Separate (factory : PoolFactory P) (router : Router P) : Prop where
  ascending : router.registry.pools.Ascending
  owned : ∀ key pool, router.registry.get? key = some pool → router.Owned factory key pool

theorem separate_of_poolless {router : Router P} (poolless : router.registry.pools = []) :
    router.Separate factory := by
  constructor
  · rw [poolless]
    exact List.Pairwise.nil
  · intro key pool registered
    rw [Registry.get?, poolless] at registered
    cases registered

/-- What a request or a removal can do to a router, with the key that is removed. -/
inductive Changes (factory : PoolFactory P) (router : Router P) : Option String → Router P → Prop
  | keep : Changes factory router none router
  | register {key : String} {source : DataSource} {pool : P} :
    router.registry.get? key = none → factory router.created source = .ok pool →
    Changes factory router none (router.register key pool)
  | remove (key : String) : Changes factory router (some key) (router.remove key).2

variable {router after : Router P} {removed : Option String} {key : String} {pool : P}

theorem Changes.of_fetch (got : router.fetch factory key = (.ok pool, after)) :
    router.Changes factory none after ∧ after.registry.get? key = some pool := by
  rcases fetch_eq_ok.1 got with ⟨registered, rfl⟩ | ⟨absent, rfl, source, -, made⟩
  · exact ⟨.keep, registered⟩
  · refine ⟨.register absent made, ?_⟩
    exact (Registry.get?_insert router.registry key key pool).trans (if_pos rfl)

theorem get?_register (router : Router P) (key other : String) (pool : P) :
    (router.register key pool).registry.get? other =
      if other = key then some pool else router.registry.get? other :=
  Registry.get?_insert router.registry key other pool

theorem get?_remove (ascending : router.registry.pools.Ascending) (key other : String) :
    (router.remove key).2.registry.get? other =
      if other = key then none else router.registry.get? other :=
  Registry.get?_remove ascending key other

theorem get?_remove_other (router : Router P) {key other : String} (differs : key ≠ other) :
    (router.remove key).2.registry.get? other = router.registry.get? other := by
  unfold Router.remove Registry.remove
  cases router.registry.get? key with
  | none => rfl
  | some pool => exact Table.find?_erase_other key other router.registry.pools differs

theorem Changes.registered (changes : router.Changes factory removed after)
    (kept : removed ≠ some key)
    (registered : router.registry.get? key = some pool) :
    after.registry.get? key = some pool := by
  cases changes with
  | keep => exact registered
  | @register new source fresh absent made =>
    have other : key ≠ new := by
      rintro rfl
      rw [absent] at registered
      cases registered
    rw [get?_register, if_neg other, registered]
  | remove gone =>
    have other : gone ≠ key := fun same => kept (congrArg some same)
    rw [get?_remove_other router other, registered]

/-- A pool that belongs to a key goes on belonging to it, whether or not it stays registered: a pool
that is made later has a later number. -/
theorem Owned.changes (owned : router.Owned factory key pool) (distinct : factory.Distinct)
    (separate : router.Separate factory) (changes : router.Changes factory removed after) :
    after.Owned factory key pool := by
  obtain ⟨⟨n, earlier, source, made⟩, alone⟩ := owned
  cases changes with
  | keep => exact ⟨⟨n, earlier, source, made⟩, alone⟩
  | @register new other fresh absent now =>
    refine ⟨⟨n, Nat.lt_succ_of_lt earlier, source, made⟩, fun holder registered => ?_⟩
    rw [get?_register] at registered
    split at registered
    · cases registered
      have same := distinct n router.created source other pool made now
      omega
    · exact alone holder registered
  | remove gone =>
    refine ⟨⟨n, earlier, source, made⟩, fun holder registered => ?_⟩
    rw [get?_remove separate.ascending] at registered
    split at registered
    · cases registered
    · exact alone holder registered

theorem Separate.changes (separate : router.Separate factory) (distinct : factory.Distinct)
    (changes : router.Changes factory removed after) : after.Separate factory := by
  cases changes with
  | keep => exact separate
  | @register new source fresh absent made =>
    refine ⟨separate.ascending.insert new fresh, fun key pool registered => ?_⟩
    have now : router.Changes factory none (router.register new fresh) := .register absent made
    rw [get?_register] at registered
    split at registered
    · next same =>
      cases registered
      subst same
      refine ⟨⟨router.created, Nat.lt_succ_self _, source, made⟩, fun holder also => ?_⟩
      rw [get?_register] at also
      split at also
      · assumption
      · -- The pool would have been there before it was made.
        obtain ⟨⟨n, earlier, first, older⟩, -⟩ := separate.owned holder fresh also
        have same := distinct n router.created first source fresh older made
        omega
    · exact (separate.owned key pool registered).changes distinct separate now
  | remove gone =>
    refine ⟨Registry.ascending_remove separate.ascending gone, fun key pool registered => ?_⟩
    rw [get?_remove separate.ascending] at registered
    split at registered
    · cases registered
    · exact (separate.owned key pool registered).changes distinct separate (.remove gone)

end Router

end RowGuard
