import RowGuard.Error
import RowGuard.Collection.Table
import RowGuard.Text.Blank
/-!
The pools in use, one per tenant key. A pool that is registered is never replaced; it has to be
removed before its key gets another.
-/
namespace RowGuard

structure Registry (P : Type) where
  pools : Table P := []

namespace Registry

variable {P : Type}

instance : Inhabited (Registry P) := ⟨{}⟩

def get? (registry : Registry P) (key : String) : Option P := Table.find? key registry.pools

/-- Whether a key has a pool. Blank keys count as without one. -/
def contains (registry : Registry P) (key : String) : Bool :=
  !Text.isBlankText key && Table.contains key registry.pools

def keys (registry : Registry P) : List String := Table.keys registry.pools

def size (registry : Registry P) : Nat := registry.pools.length

def insert (registry : Registry P) (key : String) (pool : P) : Registry P :=
  ⟨Table.insert key pool registry.pools⟩

/-- The pool of a key, created and registered where there is none, and whether it was created. The
creation is an action of its own and is carried out at most once. -/
def obtain {m : Type → Type} [Monad m] (registry : Registry P) (key : String)
    (create : m (Guarded P)) : m (Guarded (P × Bool) × Registry P) :=
  match registry.get? key with
  | some pool => pure (.ok (pool, false), registry)
  | none => do
    match ← create with
    | .error reason => pure (.error reason, registry)
    | .ok pool => pure (.ok (pool, true), registry.insert key pool)

def remove (registry : Registry P) (key : String) : Option P × Registry P :=
  match registry.get? key with
  | some pool => (some pool, ⟨Table.erase key registry.pools⟩)
  | none => (none, registry)

end Registry

end RowGuard
