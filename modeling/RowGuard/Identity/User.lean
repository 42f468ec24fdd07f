import RowGuard.Identity.DataScope
/-!
Users and the roles they hold. The roles of a user form a set in the order of role id and scope, so
what follows from them does not depend on how they were added.
-/
namespace RowGuard

structure Role where
  id : RoleId
  scope : DataScope
  deriving DecidableEq, Repr, Inhabited

namespace Role

def read (id : RoleId) (scope : String) : Guarded Role := (DataScope.read scope).map (mk id)

instance : Ord Role where
  compare :=
    compareLex (compareOn fun role => role.id.value) (compareOn fun role => role.scope.rank)

instance : Std.TransOrd Role :=
  inferInstanceAs (Std.TransCmp
    (compareLex (compareOn fun role : Role => role.id.value)
      (compareOn fun role : Role => role.scope.rank)))

instance : Std.LawfulEqOrd Role where
  compare_self := Std.ReflCmp.compare_self
  eq_of_compare {a b} same := by
    obtain ⟨ids, ranks⟩ := Ordering.then_eq_eq.1 same
    have sameId : a.id.value = b.id.value := Std.LawfulEqOrd.eq_of_compare ids
    have sameScope : a.scope = b.scope :=
      DataScope.rank_injective (Std.LawfulEqOrd.eq_of_compare ranks)
    obtain ⟨⟨_⟩, _⟩ := a
    obtain ⟨⟨_⟩, _⟩ := b
    cases sameId; cases sameScope
    rfl

def toJson (role : Role) : Json :=
  .obj [("role_id", role.id.toJson), ("data_scope", role.scope.toJson)]

def fields : List (Json.Decoder.Field Role) :=
  [.required "role_id" RoleId.decode fun v r => { r with id := v },
    .required "data_scope" DataScope.decode fun v r => { r with scope := v }]

def decode : Json.Decoder Role := Json.Decoder.record fields default

end Role

structure User where
  id : UserId
  dept : DeptId
  roles : OrderedSet Role
  deriving DecidableEq, Inhabited

namespace User

def new (id : UserId) (dept : DeptId) : User := ⟨id, dept, .empty⟩

def addRole (user : User) (role : Role) : User := { user with roles := user.roles.insert role }

def addRoles (user : User) (roles : List Role) : User :=
  { user with roles := user.roles.insertAll roles }

theorem ext_roles {user other : User} (ids : user.id = other.id) (depts : user.dept = other.dept)
    (roles : ∀ role, role ∈ user.roles.toList ↔ role ∈ other.roles.toList) : user = other := by
  obtain ⟨_, _, _⟩ := user
  obtain ⟨_, _, _⟩ := other
  cases ids
  cases depts
  cases OrderedSet.ext_mem roles
  rfl

def hasFullAccess (user : User) : Bool := user.roles.toList.any (·.scope = .all)

def toJson (user : User) : Json :=
  .obj [("user_id", user.id.toJson), ("dept_id", user.dept.toJson),
    ("roles", Json.list Role.toJson user.roles.toList)]

def fields : List (Json.Decoder.Field User) :=
  [.required "user_id" UserId.decode fun v u => { u with id := v },
    .required "dept_id" DeptId.decode fun v u => { u with dept := v },
    .defaulted "roles" (Json.Decoder.set Role.decode) fun v u => { u with roles := v }]

def decode : Json.Decoder User := Json.Decoder.record fields default

end User

end RowGuard
