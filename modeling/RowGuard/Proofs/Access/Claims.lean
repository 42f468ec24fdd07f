import Mathlib.Tactic.SplitIfs
import RowGuard.Access.Provider
/-!
What stands behind the user of a bearer token. The roles of the user are the roles the token lists,
each read by its scope, and a token with a scope that does not exist makes no user. Only a token
that is verified, and whose time has come and not gone, says anything about a caller.
-/
namespace RowGuard

namespace RoleClaim

def Known (claim : RoleClaim) : Prop := ∃ scope, DataScope.read claim.scope = .ok scope

theorem toRole_eq_ok {claim : RoleClaim} {role : Role} :
    claim.toRole = .ok role ↔
      role.id = claim.role ∧ DataScope.read claim.scope = .ok role.scope := by
  unfold toRole Role.read
  cases DataScope.read claim.scope with
  | error e => simp [Except.map]
  | ok scope =>
    obtain ⟨id, own⟩ := role
    simp [Except.map, eq_comm]

theorem toRole_unknown {claim : RoleClaim} (unknown : ¬claim.Known) :
    claim.toRole = .error (.unsupportedDataScope (Text.trim claim.scope)) := by
  have failed : DataScope.read claim.scope =
      .error (.unsupportedDataScope (Text.trim claim.scope)) := by
    unfold DataScope.read
    cases found : DataScope.ofSpelling? (Text.trim claim.scope) with
    | none => rfl
    | some scope =>
      refine absurd ⟨scope, ?_⟩ unknown
      rw [DataScope.read, found]
  rw [toRole, Role.read, failed]
  rfl

end RoleClaim

namespace Claims

/-- The first role with an unknown scope has this one. -/
def FirstUnknown (roles : List RoleClaim) (code : String) : Prop :=
  ∃ before claim after, roles = before ++ claim :: after ∧
    (∀ earlier ∈ before, earlier.Known) ∧ ¬claim.Known ∧ code = Text.trim claim.scope

structure FullAccess (claims : Claims) : Prop where
  known : ∀ claim ∈ claims.roles, claim.Known
  everything : ∃ claim ∈ claims.roles, DataScope.read claim.scope = .ok .all

structure HoldsAt (claims : Claims) (now : Instant) : Prop where
  issued : now.before claims.issuedAt = false
  lasts : now.before claims.expiresAt = true

theorem readRoles_ok {claims : List RoleClaim} {roles : List Role}
    (read : readRoles claims = .ok roles) :
    (∀ claim ∈ claims, claim.Known) ∧
      ∀ role, role ∈ roles ↔ ∃ claim ∈ claims, claim.toRole = .ok role := by
  induction claims generalizing roles with
  | nil =>
    cases read
    exact ⟨nofun, fun role => by simp⟩
  | cons first rest ih =>
    rw [readRoles] at read
    cases one : first.toRole with
    | error e => simp [one, bind, Except.bind] at read
    | ok role =>
      cases others : readRoles rest with
      | error e => simp [one, others, bind, Except.bind] at read
      | ok tail =>
        simp only [one, others, bind, Except.bind, pure, Except.pure, Except.ok.injEq] at read
        subst read
        obtain ⟨known, members⟩ := ih others
        refine ⟨?_, fun other => ?_⟩
        · intro claim member
          rcases List.mem_cons.1 member with rfl | later
          · exact ⟨role.scope, (RoleClaim.toRole_eq_ok.1 one).2⟩
          · exact known claim later
        · simp only [List.mem_cons, members, exists_eq_or_imp, one, Except.ok.injEq]
          exact or_congr_left eq_comm

theorem firstUnknown_known {first : RoleClaim} (known : first.Known) {rest : List RoleClaim}
    {code : String} : FirstUnknown (first :: rest) code ↔ FirstUnknown rest code := by
  constructor
  · rintro ⟨before, claim, after, split, earlier, unknown, named⟩
    cases before with
    | nil =>
      cases split
      exact absurd known unknown
    | cons head before =>
      cases split
      exact ⟨before, claim, after, rfl,
        fun other member => earlier other (List.mem_cons_of_mem _ member), unknown, named⟩
  · rintro ⟨before, claim, after, rfl, earlier, unknown, named⟩
    refine ⟨first :: before, claim, after, rfl, ?_, unknown, named⟩
    intro other member
    rcases List.mem_cons.1 member with rfl | later
    · exact known
    · exact earlier other later

theorem firstUnknown_unknown {first : RoleClaim} (unknown : ¬first.Known) {rest : List RoleClaim}
    {code : String} : FirstUnknown (first :: rest) code ↔ code = Text.trim first.scope := by
  constructor
  · rintro ⟨before, claim, after, split, earlier, -, named⟩
    cases before with
    | nil =>
      cases split
      exact named
    | cons head before =>
      cases split
      exact absurd (earlier first List.mem_cons_self) unknown
  · rintro rfl
    exact ⟨[], first, rest, rfl, by simp, unknown, rfl⟩

/-- Reading fails at the first unknown scope and there only. -/
theorem readRoles_error {claims : List RoleClaim} {e : GuardError} :
    readRoles claims = .error e ↔
      ∃ code, FirstUnknown claims code ∧ e = .unsupportedDataScope code := by
  induction claims with
  | nil => simp [readRoles, FirstUnknown]
  | cons first rest ih =>
    rw [readRoles]
    by_cases known : first.Known
    · obtain ⟨scope, read⟩ := known
      have one : first.toRole = .ok ⟨first.role, scope⟩ := RoleClaim.toRole_eq_ok.2 ⟨rfl, read⟩
      simp only [firstUnknown_known ⟨scope, read⟩, ← ih, one, bind, Except.bind]
      cases readRoles rest <;> simp [pure, Except.pure]
    · simp only [firstUnknown_unknown known, RoleClaim.toRole_unknown known, bind, Except.bind,
        Except.error.injEq, exists_eq_left]
      exact eq_comm

theorem exists_firstUnknown {roles : List RoleClaim} {claim : RoleClaim} (listed : claim ∈ roles)
    (unknown : ¬claim.Known) : ∃ code, FirstUnknown roles code := by
  cases read : readRoles roles with
  | ok _ => exact absurd ((readRoles_ok read).1 claim listed) unknown
  | error e =>
    obtain ⟨code, first, -⟩ := readRoles_error.1 read
    exact ⟨code, first⟩

theorem toUser_ok {claims : Claims} {user : User} (made : claims.toUser = .ok user) :
    (∀ claim ∈ claims.roles, claim.Known) ∧
      ∀ role, role ∈ user.roles.toList ↔ ∃ claim ∈ claims.roles, claim.toRole = .ok role := by
  unfold toUser at made
  cases read : readRoles claims.roles with
  | error e => simp [read, bind, Except.bind] at made
  | ok roles =>
    simp only [read, bind, Except.bind, pure, Except.pure, Except.ok.injEq] at made
    subst made
    obtain ⟨known, members⟩ := readRoles_ok read
    refine ⟨known, fun role => ?_⟩
    rw [← members]
    have added : role ∈ (OrderedSet.empty.insertAll roles).toList ↔
        role ∈ roles ∨ role ∈ (OrderedSet.empty : OrderedSet Role).toList :=
      OrderedSet.mem_insertAll
    exact added.trans (or_iff_left List.not_mem_nil)

theorem toUser_error {claims : Claims} {e : GuardError} :
    claims.toUser = .error e ↔
      ∃ code, FirstUnknown claims.roles code ∧ e = .unsupportedDataScope code := by
  rw [← readRoles_error]
  unfold toUser
  cases readRoles claims.roles <;> simp [bind, Except.bind, pure, Except.pure]

theorem hasFullAccess_toUser {claims : Claims} {user : User} (made : claims.toUser = .ok user) :
    user.hasFullAccess = true ↔ claims.FullAccess := by
  obtain ⟨known, members⟩ := toUser_ok made
  unfold User.hasFullAccess
  simp only [List.any_eq_true, decide_eq_true_eq, members]
  constructor
  · rintro ⟨role, ⟨claim, listed, read⟩, everything⟩
    exact ⟨known, claim, listed, everything ▸ (RoleClaim.toRole_eq_ok.1 read).2⟩
  · rintro ⟨-, claim, listed, read⟩
    exact ⟨⟨claim.role, .all⟩, ⟨claim, listed, RoleClaim.toRole_eq_ok.2 ⟨rfl, read⟩⟩, rfl⟩

theorem check_eq_ok {claims : Claims} {now : Instant} :
    claims.check now = .ok () ↔ claims.HoldsAt now := by
  -- A time that is not before the first bound and is before the second keeps the two in order.
  have inOrder : now.before claims.issuedAt = false → now.before claims.expiresAt = true →
      claims.issuedAt.before claims.expiresAt = true := by
    unfold Instant.before
    grind
  unfold check
  constructor
  · intro held
    split_ifs at held with window early late
    exact ⟨by simpa using early, by simpa using late⟩
  · rintro ⟨issued, lasts⟩
    rw [inOrder issued lasts, issued, lasts]
    rfl

end Claims

namespace Bearer

/-- The request has a token that is verified and now holds, with these claims. -/
def Vouches (verify : TokenVerifier) (now : Instant) (headers : Http.Headers) (claims : Claims) :
    Prop :=
  ∃ token, Bearer.token headers = .ok token ∧ verify token = some claims ∧ claims.HoldsAt now

variable {verify : TokenVerifier} {now : Instant} {headers : Http.Headers}

theorem usableClaims_eq_some {claims : Claims} :
    UserProvider.usableClaims verify now headers = some claims ↔
      Vouches verify now headers claims := by
  unfold UserProvider.usableClaims Bearer.claims Vouches
  cases sent : token headers with
  | error e => simp [bind, Except.bind, Except.toOption]
  | ok token =>
    cases verified : verify token with
    | none => simp [bind, Except.bind, Except.toOption, verified]
    | some found =>
      cases held : found.check now with
      | error reason =>
        have out : ¬found.HoldsAt now := fun holds => by
          cases held.symm.trans (Claims.check_eq_ok.2 holds)
        simp only [bind, Except.bind, Except.toOption, verified, held, Except.ok.injEq,
          exists_eq_left', Option.some.injEq, reduceCtorEq, false_iff, not_and]
        rintro rfl
        exact out
      | ok _ =>
        have holds : found.HoldsAt now := Claims.check_eq_ok.1 held
        simp only [bind, Except.bind, Except.toOption, verified, held, Except.ok.injEq,
          exists_eq_left', Option.some.injEq, iff_self_and]
        rintro rfl
        exact holds

theorem bearerIdentity_error {e : GuardError} :
    UserProvider.bearerIdentity verify now headers = .error e ↔
      ∃ claims code, Vouches verify now headers claims ∧ Claims.FirstUnknown claims.roles code ∧
        e = .unsupportedDataScope code := by
  unfold UserProvider.bearerIdentity
  simp only [← usableClaims_eq_some]
  cases UserProvider.usableClaims verify now headers with
  | none => simp
  | some claims =>
    simp only [Option.some.injEq, exists_and_left, exists_eq_left', ← Claims.toUser_error]
    cases claims.toUser <;> simp [Except.map]

theorem known_of_bearerIdentity {identity : CallerIdentity} {claims : Claims}
    (known : UserProvider.bearerIdentity verify now headers = .ok identity)
    (vouches : Vouches verify now headers claims) : ∀ claim ∈ claims.roles, claim.Known := by
  rw [UserProvider.bearerIdentity, usableClaims_eq_some.2 vouches] at known
  cases made : claims.toUser with
  | error e => simp [made, Except.map] at known
  | ok user => exact (Claims.toUser_ok made).1

/-- A caller by bearer token may act as the super tenant if and only if a token with full access
vouches for it. -/
theorem mayBeSuper_bearerIdentity {identity : CallerIdentity}
    (known : UserProvider.bearerIdentity verify now headers = .ok identity) :
    identity.mayBeSuper = true ↔
      ∃ claims, Vouches verify now headers claims ∧ claims.FullAccess := by
  unfold UserProvider.bearerIdentity at known
  simp only [← usableClaims_eq_some]
  cases usable : UserProvider.usableClaims verify now headers with
  | none =>
    rw [usable] at known
    cases known
    simp [CallerIdentity.mayBeSuper, CallerIdentity.anonymous]
  | some claims =>
    rw [usable] at known
    cases made : claims.toUser with
    | error e => simp [made, Except.map] at known
    | ok user =>
      simp only [made, Except.map, Except.ok.injEq] at known
      subst known
      simpa [CallerIdentity.mayBeSuper] using Claims.hasFullAccess_toUser made

end Bearer

end RowGuard
