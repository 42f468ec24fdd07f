import Mathlib.Logic.Relation
import RowGuard.Access.Resolution
import RowGuard.Proofs.Access.Claims
import RowGuard.Proofs.Text.Trimming
/-!
The roles of a token, as they are written and as they count. A scope is written by its code or by
its name, with any white space around it. A user is made of a token only if every one of its claims
states a role, and then it has the roles that are stated, in whatever order, spelling and number.
-/
namespace RowGuard

namespace DataScope

/-- The text is the code or the name of a scope, white space around it aside. -/
def SpelledBy (scope : DataScope) (s : String) : Prop :=
  Text.trim s = scope.code ∨ Text.trim s = scope.name

theorem ofSpelling?_eq_some {s : String} {scope : DataScope} :
    ofSpelling? s = some scope ↔ s = scope.code ∨ s = scope.name := by
  constructor
  · intro found
    simpa using List.find?_some found
  · rintro (rfl | rfl) <;> cases scope <;> rfl

theorem read_eq_ok {s : String} {scope : DataScope} :
    read s = .ok scope ↔ scope.SpelledBy s := by
  rw [SpelledBy, ← ofSpelling?_eq_some, read]
  cases ofSpelling? (Text.trim s) with
  | none => exact iff_of_false (by intro read; cases read) (by intro found; cases found)
  | some found => rw [Except.ok.injEq, Option.some.injEq]

theorem spelledBy_code (scope : DataScope) : scope.SpelledBy scope.code := by
  cases scope <;> exact .inl rfl

theorem spelledBy_name (scope : DataScope) : scope.SpelledBy scope.name := by
  cases scope <;> exact .inr rfl

theorem SpelledBy.unique {a b : DataScope} {s : String} (first : a.SpelledBy s)
    (second : b.SpelledBy s) : a = b :=
  Except.ok.inj ((read_eq_ok.2 first).symm.trans (read_eq_ok.2 second))

end DataScope

namespace RoleClaim

/-- The role that is stated by a claim: the id is the one claimed, and the text of the scope spells
the scope. -/
structure States (claim : RoleClaim) (role : Role) : Prop where
  id : role.id = claim.role
  scope : role.scope.SpelledBy claim.scope

theorem states_iff {claim : RoleClaim} {role : Role} :
    claim.States role ↔ claim.toRole = .ok role := by
  rw [toRole_eq_ok, DataScope.read_eq_ok]
  exact ⟨fun stated => ⟨stated.id, stated.scope⟩, fun ⟨id, scope⟩ => ⟨id, scope⟩⟩

theorem known_iff {claim : RoleClaim} :
    claim.Known ↔ ∃ scope : DataScope, scope.SpelledBy claim.scope := by
  simp only [Known, DataScope.read_eq_ok]

theorem states_ofRole {role other : Role} : (ofRole role).States other ↔ other = role := by
  constructor
  · rintro ⟨id, scope⟩
    have same : other.scope = role.scope := scope.unique role.scope.spelledBy_name
    obtain ⟨_, _⟩ := other
    cases id
    cases same
    rfl
  · rintro rfl
    exact ⟨rfl, other.scope.spelledBy_name⟩

/-- One change in the way a role is written: white space is put around the text of the scope, or the
code of the scope is replaced by the name. -/
inductive Respelling : RoleClaim → RoleClaim → Prop
  | padded {claim other : RoleClaim} (before after : List Char) (role : other.role = claim.role)
    (spelled : other.scope.toList = before ++ claim.scope.toList ++ after)
    (front : ∀ c ∈ before, Text.isBlank c = true) (back : ∀ c ∈ after, Text.isBlank c = true) :
    Respelling claim other
  | named (role : RoleId) (scope : DataScope) : Respelling ⟨role, scope.code⟩ ⟨role, scope.name⟩

/-- Whether two claims are spellings of one role: changes of spelling, made or undone, lead from one
to the other. -/
def Same (claim other : RoleClaim) : Prop := Relation.EqvGen Respelling claim other

theorem states_respelling {claim other : RoleClaim} (change : Respelling claim other)
    (role : Role) : claim.States role ↔ other.States role := by
  cases change with
  | padded before after same spelled front back =>
    have trimmed : Text.trim other.scope = Text.trim claim.scope := by
      rw [Text.trim, Text.trim, spelled, Text.trimChars_padded front back]
    constructor
    · rintro ⟨id, scope⟩
      exact ⟨id.trans same.symm, by rwa [DataScope.SpelledBy, trimmed]⟩
    · rintro ⟨id, scope⟩
      exact ⟨id.trans same, by rwa [DataScope.SpelledBy, trimmed] at scope⟩
  | named id scope =>
    have both : role.scope.SpelledBy scope.code ↔ role.scope.SpelledBy scope.name := by
      constructor
      · intro spelled
        rw [spelled.unique scope.spelledBy_code]
        exact scope.spelledBy_name
      · intro spelled
        rw [spelled.unique scope.spelledBy_name]
        exact scope.spelledBy_code
    exact ⟨fun stated => ⟨stated.id, both.1 stated.scope⟩,
      fun stated => ⟨stated.id, both.2 stated.scope⟩⟩

theorem Same.states {claim other : RoleClaim} (same : claim.Same other) (role : Role) :
    claim.States role ↔ other.States role := by
  induction same with
  | rel _ _ change => exact states_respelling change role
  | refl _ => rfl
  | symm _ _ _ ih => exact ih.symm
  | trans _ _ _ _ _ first second => exact first.trans second

/-- Whether each of two lists has every role of the other in some spelling. Neither the order nor
the number of times a role is listed counts. -/
def Alike (claims others : List RoleClaim) : Prop :=
  (∀ claim ∈ claims, ∃ other ∈ others, claim.Same other) ∧
    ∀ other ∈ others, ∃ claim ∈ claims, claim.Same other

theorem Alike.states {claims others : List RoleClaim} (alike : Alike claims others) (role : Role) :
    (∃ claim ∈ claims, claim.States role) ↔ ∃ other ∈ others, other.States role := by
  constructor
  · rintro ⟨claim, listed, stated⟩
    obtain ⟨other, among, same⟩ := alike.1 claim listed
    exact ⟨other, among, (same.states role).1 stated⟩
  · rintro ⟨other, listed, stated⟩
    obtain ⟨claim, among, same⟩ := alike.2 other listed
    exact ⟨claim, among, (same.states role).2 stated⟩

end RoleClaim

namespace Claims

open RoleClaim (States)

theorem exists_toUser_iff {claims : Claims} :
    (∃ user, claims.toUser = .ok user) ↔ ∀ claim ∈ claims.roles, claim.Known := by
  constructor
  · rintro ⟨user, made⟩
    exact (toUser_ok made).1
  · intro known
    cases made : claims.toUser with
    | ok user => exact ⟨user, rfl⟩
    | error e =>
      obtain ⟨code, ⟨before, claim, after, split, -, unknown, -⟩, -⟩ := toUser_error.1 made
      exact absurd (known claim (by simp [split])) unknown

theorem ids_toUser {claims : Claims} {user : User} (made : claims.toUser = .ok user) :
    user.id = claims.subject ∧ user.dept = claims.dept := by
  unfold toUser at made
  cases read : readRoles claims.roles with
  | error e => simp [read, bind, Except.bind] at made
  | ok roles =>
    simp only [read, bind, Except.bind, pure, Except.pure, Except.ok.injEq] at made
    subst made
    exact ⟨rfl, rfl⟩

theorem toUser_eq_ok {claims : Claims} {user : User} :
    claims.toUser = .ok user ↔
      (∀ claim ∈ claims.roles, claim.Known) ∧ user.id = claims.subject ∧
        user.dept = claims.dept ∧
        ∀ role, role ∈ user.roles.toList ↔ ∃ claim ∈ claims.roles, claim.States role := by
  simp only [RoleClaim.states_iff]
  constructor
  · intro made
    obtain ⟨known, members⟩ := toUser_ok made
    obtain ⟨ids, depts⟩ := ids_toUser made
    exact ⟨known, ids, depts, members⟩
  · rintro ⟨known, ids, depts, members⟩
    obtain ⟨found, made⟩ := exists_toUser_iff.2 known
    obtain ⟨foundIds, foundDepts⟩ := ids_toUser made
    have same : found = user :=
      User.ext_roles (foundIds.trans ids.symm) (foundDepts.trans depts.symm) fun role =>
        ((toUser_ok made).2 role).trans (members role).symm
    rw [made, same]

theorem toUser_alike {claims other : Claims} (subject : other.subject = claims.subject)
    (dept : other.dept = claims.dept) (alike : RoleClaim.Alike claims.roles other.roles)
    {user : User} (made : claims.toUser = .ok user) : other.toUser = .ok user := by
  obtain ⟨known, ids, depts, members⟩ := toUser_eq_ok.1 made
  refine toUser_eq_ok.2 ⟨fun claim listed => ?_, ids.trans subject.symm, depts.trans dept.symm,
    fun role => (members role).trans (alike.states role)⟩
  obtain ⟨first, among, same⟩ := alike.2 claim listed
  obtain ⟨scope, spelled⟩ := RoleClaim.known_iff.1 (known first among)
  have stated : first.States ⟨first.role, scope⟩ := ⟨rfl, spelled⟩
  exact RoleClaim.known_iff.2 ⟨scope, ((same.states _).1 stated).scope⟩

theorem toUser_ofRoles {claims : Claims} {user : User} (subject : claims.subject = user.id)
    (dept : claims.dept = user.dept)
    (written : claims.roles = user.roles.toList.map RoleClaim.ofRole) :
    claims.toUser = .ok user := by
  refine toUser_eq_ok.2 ⟨fun claim listed => ?_, subject.symm, dept.symm, fun role => ?_⟩
  · rw [written] at listed
    obtain ⟨role, -, rfl⟩ := List.mem_map.1 listed
    exact RoleClaim.known_iff.2 ⟨role.scope, role.scope.spelledBy_name⟩
  · rw [written]
    constructor
    · intro held
      exact ⟨_, List.mem_map_of_mem held, RoleClaim.states_ofRole.2 rfl⟩
    · rintro ⟨claim, listed, stated⟩
      obtain ⟨own, held, rfl⟩ := List.mem_map.1 listed
      rwa [RoleClaim.states_ofRole.1 stated]

theorem firstUnknown_iff {roles : List RoleClaim} {code : String} :
    FirstUnknown roles code ↔ ∃ before claim after, roles = before ++ claim :: after ∧
      (∀ earlier ∈ before, ∃ scope : DataScope, scope.SpelledBy earlier.scope) ∧
      (¬∃ scope : DataScope, scope.SpelledBy claim.scope) ∧ code = Text.trim claim.scope := by
  simp only [FirstUnknown, RoleClaim.known_iff]

/-- Roles convert all or not at all, and their spelling does not count. A token makes a user exactly
where the scope of every role is spelled by a code or a name; otherwise the error names the trimmed
text of the first scope that is not. The user has the ids of the token and exactly the roles that
are stated. So tokens whose lists state the same roles, in whatever order, as often as they like and
in any spelling, make one user, with one resolution for every table; and what the roles of a user
are written as makes that user again. -/
theorem roles_convert_all_or_none (claims : Claims) :
    ((∃ user, claims.toUser = .ok user) ↔
      ∀ claim ∈ claims.roles, ∃ scope : DataScope, scope.SpelledBy claim.scope) ∧
    (∀ e, claims.toUser = .error e ↔ ∃ before claim after,
      claims.roles = before ++ claim :: after ∧
      (∀ earlier ∈ before, ∃ scope : DataScope, scope.SpelledBy earlier.scope) ∧
      (¬∃ scope : DataScope, scope.SpelledBy claim.scope) ∧
      e = .unsupportedDataScope (Text.trim claim.scope)) ∧
    (∀ user, claims.toUser = .ok user →
      user.id = claims.subject ∧ user.dept = claims.dept ∧
      (∀ role, role ∈ user.roles.toList ↔ ∃ claim ∈ claims.roles, claim.States role) ∧
      ∀ other : Claims, other.subject = claims.subject → other.dept = claims.dept →
        RoleClaim.Alike claims.roles other.roles → other.toUser = .ok user ∧
          ∀ d, other.toUser.map (User.resolve · d) = .ok (user.resolve d)) ∧
    ∀ user : User, claims.subject = user.id → claims.dept = user.dept →
      claims.roles = user.roles.toList.map RoleClaim.ofRole → claims.toUser = .ok user := by
  refine ⟨?_, fun e => ?_, fun user made => ?_, fun user => toUser_ofRoles⟩
  · simp only [exists_toUser_iff, RoleClaim.known_iff]
  · rw [toUser_error]
    simp only [firstUnknown_iff]
    constructor
    · rintro ⟨code, ⟨before, claim, after, split, earlier, unknown, rfl⟩, rfl⟩
      exact ⟨before, claim, after, split, earlier, unknown, rfl⟩
    · rintro ⟨before, claim, after, split, earlier, unknown, rfl⟩
      exact ⟨_, ⟨before, claim, after, split, earlier, unknown, rfl⟩, rfl⟩
  · obtain ⟨-, ids, depts, members⟩ := toUser_eq_ok.1 made
    refine ⟨ids, depts, members, fun other subject dept alike => ?_⟩
    have again := toUser_alike subject dept alike made
    exact ⟨again, fun d => by rw [again]; rfl⟩

/-- Four claims, two of them with one role, and three claims that state the same roles; the claims
that the roles of their user are written as; and claims of which the second is the first without a
scope. -/
theorem roles_convert_all_or_none_spellings :
    let claims : Claims :=
      { subject := ⟨7⟩, dept := ⟨3⟩, issuedAt := ⟨0, 0⟩, expiresAt := ⟨9, 0⟩
        roles := [⟨⟨2⟩, " 5\t"⟩, ⟨⟨1⟩, "DEPT"⟩, ⟨⟨2⟩, "SELF"⟩, ⟨⟨2⟩, "2"⟩] }
    let other : Claims :=
      { claims with roles := [⟨⟨1⟩, "DEPT"⟩, ⟨⟨2⟩, "CUSTOM"⟩, ⟨⟨2⟩, "SELF"⟩] }
    let user : User := ⟨⟨7⟩, ⟨3⟩, .ofList [⟨⟨1⟩, .dept⟩, ⟨⟨2⟩, .custom⟩, ⟨⟨2⟩, .ownRows⟩]⟩
    let written : Claims := { claims with roles := user.roles.toList.map RoleClaim.ofRole }
    let wrong : Claims :=
      { claims with roles := [⟨⟨1⟩, "1"⟩, ⟨⟨2⟩, " 9 "⟩, ⟨⟨3⟩, "self"⟩] }
    claims.toUser = .ok user ∧ RoleClaim.Alike claims.roles other.roles ∧
      other.toUser = .ok user ∧ written.toUser = .ok user ∧
      wrong.toUser = .error (.unsupportedDataScope "9") := by
  intro claims other user written wrong
  have made : claims.toUser = .ok user := rfl
  have padded : RoleClaim.Respelling ⟨⟨2⟩, "5"⟩ ⟨⟨2⟩, " 5\t"⟩ :=
    .padded [' '] ['\t'] rfl rfl (List.forall_mem_singleton.2 rfl)
      (List.forall_mem_singleton.2 rfl)
  have own : RoleClaim.Same ⟨⟨2⟩, " 5\t"⟩ ⟨⟨2⟩, "SELF"⟩ :=
    .trans _ _ _ (.symm _ _ (.rel _ _ padded)) (.rel _ _ (.named ⟨2⟩ .ownRows))
  have linked : RoleClaim.Same ⟨⟨2⟩, "2"⟩ ⟨⟨2⟩, "CUSTOM"⟩ := .rel _ _ (.named ⟨2⟩ .custom)
  have alike : RoleClaim.Alike claims.roles other.roles := by
    constructor
    · simp only [claims, other, List.forall_mem_cons]
      exact ⟨⟨_, by simp, own⟩, ⟨_, by simp, .refl _⟩, ⟨_, by simp, .refl _⟩, ⟨_, by simp, linked⟩,
        List.forall_mem_nil _⟩
    · simp only [claims, other, List.forall_mem_cons]
      exact ⟨⟨_, by simp, .refl _⟩, ⟨_, by simp, linked⟩, ⟨_, by simp, .refl _⟩,
        List.forall_mem_nil _⟩
  have unknown : ¬∃ scope : DataScope, scope.SpelledBy " 9 " := by
    rintro ⟨scope, spelled⟩
    cases DataScope.read_eq_ok.2 spelled
  have known : ∀ earlier ∈ [(⟨⟨1⟩, "1"⟩ : RoleClaim)],
      ∃ scope : DataScope, scope.SpelledBy earlier.scope :=
    List.forall_mem_singleton.2 ⟨.all, .inl rfl⟩
  exact ⟨made, alike,
    (((roles_convert_all_or_none claims).2.2.1 user made).2.2.2 other rfl rfl alike).1,
    (roles_convert_all_or_none written).2.2.2 user rfl rfl rfl,
    ((roles_convert_all_or_none wrong).2.1 _).2
      ⟨[⟨⟨1⟩, "1"⟩], ⟨⟨2⟩, " 9 "⟩, [⟨⟨3⟩, "self"⟩], rfl, known, unknown, rfl⟩⟩

end Claims

end RowGuard
