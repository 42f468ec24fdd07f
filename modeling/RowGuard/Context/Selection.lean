import RowGuard.Number.Integer
/-!
Datasource selections of a request. A request selects datasources one above the other; each
selection is an entry of its own, which its ticket can withdraw wherever the entry stands.
-/
namespace RowGuard

inductive PoolHandle (P : Type) where
  | own (pool : P)
  | foreign (tag : Int64)
  deriving DecidableEq, Repr

namespace PoolHandle

variable {P : Type}

def own? : PoolHandle P → Option P
  | own pool => some pool
  | foreign _ => none

def foreign? : PoolHandle P → Option Int64
  | own _ => none
  | foreign tag => some tag

end PoolHandle

structure Selection (P : Type) where
  entry : Nat
  key : String
  pool : Option (PoolHandle P)
  deriving DecidableEq, Repr

structure Ticket where
  entry : Nat
  context : Nat
  key : String
  deriving DecidableEq, Repr

namespace Selection

variable {P : Type}

def ownPool? (selection : Selection P) : Option P := selection.pool.bind PoolHandle.own?

def foreignPool? (selection : Selection P) : Option Int64 := selection.pool.bind PoolHandle.foreign?

def withdraw (entry : Nat) : List (Selection P) → Option (List (Selection P))
  | [] => none
  | selection :: rest =>
    if selection.entry = entry then some rest else (withdraw entry rest).map (selection :: ·)

end Selection

end RowGuard
