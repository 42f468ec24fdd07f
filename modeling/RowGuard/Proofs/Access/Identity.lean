import RowGuard.Proofs.Access.Claims
import RowGuard.Proofs.Interception.Conjunction
import RowGuard.Proofs.Text.Trimming
/-!
Who a caller by bearer token is taken for. The identity is told in one go, and separately by the
user and by whether data scopes restrict the user; both ways agree. Whatever is wrong with a token,
the caller gets no more by it: a token that does not vouch for anyone leaves the caller anonymous,
one with an unknown scope is an error, and data scopes are lifted for the user of a token that says
so and for nobody else.
-/
namespace RowGuard

open Sql

namespace Bearer

theorem announced?_eq_some {header rest : String} :
    announced? header = some rest ↔ header.toList = "Bearer ".toList ++ rest.toList := by
  unfold announced?
  constructor
  · intro announced
    split at announced
    · next behind same =>
      cases announced
      have chars : (String.ofList behind).toList = behind := String.toList_ofList
      rw [same, chars]
      rfl
    · cases announced
  · intro same
    rw [same]
    exact congrArg some String.ofList_toList

/-- The first authorization header of a request is visible text that reads `Bearer`, a space, and
the token, which may have white space around it. -/
def Presents (headers : Http.Headers) (token : String) : Prop :=
  ∃ value before after, headers.get? "authorization" = some value ∧
    Http.Headers.isText value = true ∧
    value.toList = "Bearer ".toList ++ (before ++ token.toList ++ after) ∧
    (∀ c ∈ before, Text.isBlank c = true) ∧ (∀ c ∈ after, Text.isBlank c = true) ∧
    token ≠ "" ∧ Text.trim token = token

variable {verify : TokenVerifier} {now : Instant} {headers : Http.Headers}

theorem token_eq_ok {token : String} :
    Bearer.token headers = .ok token ↔ Presents headers token := by
  unfold Bearer.token Presents
  constructor
  · intro sent
    split at sent
    · cases sent
    · next value found =>
      split_ifs at sent with visible
      cases announced : announced? value with
      | none => simp [announced] at sent
      | some rest =>
        rw [announced, Option.map_some] at sent
        dsimp only at sent
        split_ifs at sent with empty
        cases sent
        obtain ⟨before, after, split, front, back⟩ := Text.trimChars_split rest.toList
        refine ⟨value, before, after, found, visible, ?_, front, back, ?_, Text.trim_trim rest⟩
        · have chars : (Text.trim rest).toList = Text.trimChars rest.toList := String.toList_ofList
          rw [announced?_eq_some.1 announced, chars, ← split]
        · exact fun nothing => empty (by rw [nothing]; rfl)
  · rintro ⟨value, before, after, found, visible, spelled, front, back, some, trimmed⟩
    have chars : (String.ofList (before ++ token.toList ++ after)).toList =
        before ++ token.toList ++ after := String.toList_ofList
    have announced :
        announced? value = .some (String.ofList (before ++ token.toList ++ after)) := by
      rw [announced?_eq_some, chars]
      exact spelled
    have taken : Text.trim (String.ofList (before ++ token.toList ++ after)) = token := by
      rw [Text.trim, chars, Text.trimChars_padded front back]
      exact trimmed
    have nonempty : token.isEmpty = false := by simpa using some
    rw [found]
    simp only [visible, if_true, announced, Option.map_some, taken, nonempty, Bool.false_eq_true,
      if_false]

theorem vouches_iff {claims : Claims} :
    Vouches verify now headers claims ↔
      ∃ token, Presents headers token ∧ verify token = some claims ∧ claims.HoldsAt now := by
  simp only [Vouches, token_eq_ok]

theorem bearerIdentity_eq :
    UserProvider.bearerIdentity verify now headers =
      (UserProvider.bearerUser verify now headers).map fun found =>
        ⟨found, UserProvider.bearerDataScope verify now headers⟩ := by
  unfold UserProvider.bearerIdentity UserProvider.bearerUser UserProvider.bearerDataScope
  cases UserProvider.usableClaims verify now headers with
  | none => rfl
  | some claims =>
    dsimp only
    cases claims.toUser <;> rfl

theorem bearerIdentity_anonymous (unvouched : ∀ claims, ¬Vouches verify now headers claims) :
    UserProvider.bearerIdentity verify now headers = .ok .anonymous := by
  have none : UserProvider.usableClaims verify now headers = none := by
    cases usable : UserProvider.usableClaims verify now headers with
    | none => rfl
    | some claims => exact absurd (usableClaims_eq_some.1 usable) (unvouched claims)
  rw [UserProvider.bearerIdentity, none]

theorem bearerIdentity_vouched {claims : Claims} (vouches : Vouches verify now headers claims) :
    UserProvider.bearerIdentity verify now headers =
      claims.toUser.map fun user => ⟨some user, claims.dataScope⟩ := by
  rw [UserProvider.bearerIdentity, usableClaims_eq_some.2 vouches]

theorem bearerIdentity_unfiltered {user : Option User} :
    UserProvider.bearerIdentity verify now headers = .ok ⟨user, false⟩ ↔
      ∃ claims known, Vouches verify now headers claims ∧ claims.dataScope = false ∧
        claims.toUser = .ok known ∧ user = some known := by
  by_cases vouched : ∃ claims, Vouches verify now headers claims
  · obtain ⟨claims, vouches⟩ := vouched
    have only : ∀ other, Vouches verify now headers other → other = claims := fun other vouches' =>
      Option.some.inj ((usableClaims_eq_some.2 vouches').symm.trans
        (usableClaims_eq_some.2 vouches))
    rw [bearerIdentity_vouched vouches]
    constructor
    · intro told
      cases made : claims.toUser with
      | error e =>
        rw [made] at told
        cases told
      | ok known =>
        rw [made] at told
        simp only [Except.map, Except.ok.injEq, CallerIdentity.mk.injEq] at told
        exact ⟨claims, known, vouches, told.2, made, told.1.symm⟩
    · rintro ⟨other, known, vouches', unfiltered, made, rfl⟩
      rw [← only other vouches', made, Except.map, unfiltered]
  · rw [bearerIdentity_anonymous fun claims vouches => vouched ⟨claims, vouches⟩]
    constructor
    · intro told
      cases told
    · rintro ⟨claims, -, vouches, -⟩
      exact absurd ⟨claims, vouches⟩ vouched

end Bearer

namespace CallerIdentity

theorem anonymous_scope (existing : Option Expr) (d : EntityDescriptor) (row : Row) :
    ∃ filter, applyDataScope existing anonymous.user d = some filter ∧
      row.matches filter ≠ .ok true := by
  refine ⟨Expr.restrict existing Expr.never, rfl, fun accepted => ?_⟩
  rw [Row.matches_eq_true, Expr.truth_restrict, bothTrue_eq_true] at accepted
  cases accepted.2

theorem anonymous_sees_nothing (config : GuardConfig) (suspended : Bool) (tenant : ActiveTenant)
    {s : Statement} {d : EntityDescriptor} (kind : s.kind ≠ .insert)
    (enabled : config.permission.enabled = true) (described : s.descriptor = some d) (row : Row) :
    ∃ filter,
      (Interceptor.intercept config suspended ⟨tenant, anonymous.user, anonymous.dataScope⟩
        s).filter = some filter ∧ row.matches filter ≠ .ok true := by
  have part : Interceptor.scopePart config ⟨tenant, anonymous.user, anonymous.dataScope⟩ s =
      some Expr.never := by
    rw [Interceptor.scopePart, described]
    exact if_pos ⟨kind, enabled, rfl⟩
  rw [Interceptor.intercept_filter, part]
  cases filtered : Interceptor.withLine (Interceptor.withScope s.filter (some Expr.never))
      (Interceptor.linePart config suspended ⟨tenant, anonymous.user, anonymous.dataScope⟩ s) with
  | none =>
    cases (Interceptor.withScope_eq_none.1 (Interceptor.withLine_eq_none.1 filtered).1).2
  | some filter =>
    refine ⟨filter, rfl, fun accepted => ?_⟩
    have verdict : Expr.verdict row (some filter) = .ok (some true) :=
      Row.matches_eq_true.1 accepted
    rw [← filtered, Interceptor.verdict_withLine, Interceptor.verdict_withScope, bothTrue_eq_true,
      bothTrue_eq_true] at verdict
    cases verdict.1.2

end CallerIdentity

namespace UserProvider

/-- Callers by bearer token fail closed. For every way of verifying tokens, every time and all
headers of a request, the identity is the one that is derived from the user and the lifting of data
scopes. Data scopes are lifted exactly for the user of a token that is presented, verified and valid
at the time and says so. A token that is presented, verified and valid makes the caller its user
with all its roles, and if one of its scopes is unknown the first of these is the error. In every
other case the caller is anonymous, and as such sees no row that is under a data scope. -/
theorem callers_fail_closed (verify : TokenVerifier) (now : Instant) (headers : Http.Headers) :
    let provider := bearer verify
    let derived : UserProvider := { user := provider.user, dataScope := provider.dataScope }
    provider.identify now headers = derived.identify now headers ∧
    (∀ user, provider.identify now headers = .ok ⟨user, false⟩ ↔
      ∃ token claims known, Bearer.Presents headers token ∧ verify token = some claims ∧
        claims.HoldsAt now ∧ claims.dataScope = false ∧ claims.toUser = .ok known ∧
        user = some known) ∧
    (∀ token claims, Bearer.Presents headers token → verify token = some claims →
      claims.HoldsAt now →
        provider.identify now headers =
            claims.toUser.map (fun user => ⟨some user, claims.dataScope⟩) ∧
          ((∃ claim ∈ claims.roles, ¬claim.Known) → ∃ code,
            Claims.FirstUnknown claims.roles code ∧
              provider.identify now headers = .error (.unsupportedDataScope code))) ∧
    ((¬∃ token claims, Bearer.Presents headers token ∧ verify token = some claims ∧
        claims.HoldsAt now) →
      provider.identify now headers = .ok .anonymous) ∧
    ∀ row : Row,
      (∀ existing d, ∃ filter,
        applyDataScope existing CallerIdentity.anonymous.user d = some filter ∧
          row.matches filter ≠ .ok true) ∧
      ∀ config suspended tenant (s : Statement) d, s.kind ≠ .insert →
        config.permission.enabled = true → s.descriptor = some d → ∃ filter,
          (Interceptor.intercept config suspended
            ⟨tenant, CallerIdentity.anonymous.user, CallerIdentity.anonymous.dataScope⟩
            s).filter = some filter ∧ row.matches filter ≠ .ok true := by
  intro provider derived
  refine ⟨Bearer.bearerIdentity_eq, fun user => ?_, fun token claims presents verified holds => ?_,
    fun unvouched => ?_, fun row => ⟨fun existing d => ?_, fun config suspended tenant s d => ?_⟩⟩
  · refine Bearer.bearerIdentity_unfiltered.trans ?_
    constructor
    · rintro ⟨claims, known, vouches, rest⟩
      obtain ⟨token, presents, verified, holds⟩ := Bearer.vouches_iff.1 vouches
      exact ⟨token, claims, known, presents, verified, holds, rest⟩
    · rintro ⟨token, claims, known, presents, verified, holds, rest⟩
      exact ⟨claims, known, Bearer.vouches_iff.2 ⟨token, presents, verified, holds⟩, rest⟩
  · have vouches : Bearer.Vouches verify now headers claims :=
      Bearer.vouches_iff.2 ⟨token, presents, verified, holds⟩
    refine ⟨Bearer.bearerIdentity_vouched vouches, fun ⟨claim, listed, unknown⟩ => ?_⟩
    obtain ⟨code, first⟩ := Claims.exists_firstUnknown listed unknown
    exact ⟨code, first, Bearer.bearerIdentity_error.2 ⟨claims, code, vouches, first, rfl⟩⟩
  · refine Bearer.bearerIdentity_anonymous fun claims vouches => unvouched ?_
    obtain ⟨token, vouched⟩ := Bearer.vouches_iff.1 vouches
    exact ⟨token, claims, vouched⟩
  · exact CallerIdentity.anonymous_scope existing d row
  · exact fun kind enabled described =>
      CallerIdentity.anonymous_sees_nothing config suspended tenant kind enabled described row

/-- A token that lifts data scopes, in its time and at its end; a token of which one scope is
unknown; and a header that announces its token in another way. -/
theorem callers_fail_closed_tokens :
    let claims : Claims :=
      { subject := ⟨7⟩, dept := ⟨3⟩, roles := [⟨⟨2⟩, "5"⟩], dataScope := false
        issuedAt := ⟨0, 0⟩, expiresAt := ⟨9, 0⟩ }
    let broken : Claims := { claims with roles := [⟨⟨2⟩, "5"⟩, ⟨⟨4⟩, " 9"⟩] }
    let verify : TokenVerifier := fun token =>
      if token = "key" then some claims else if token = "odd" then some broken else none
    let user : User := ⟨⟨7⟩, ⟨3⟩, .ofList [⟨⟨2⟩, .ownRows⟩]⟩
    let s : Statement := { kind := .select, table := "orders", descriptor := some .standard }
    (bearer verify).identify ⟨5, 0⟩ [("Authorization", "Bearer  key")] = .ok ⟨some user, false⟩ ∧
      (bearer verify).identify ⟨9, 0⟩ [("Authorization", "Bearer  key")] = .ok .anonymous ∧
      (∃ code, Claims.FirstUnknown broken.roles code ∧
        (bearer verify).identify ⟨5, 0⟩ [("authorization", "Bearer odd")] =
          .error (.unsupportedDataScope code)) ∧
      (bearer verify).identify ⟨5, 0⟩ [("authorization", "bearer key")] = .ok .anonymous ∧
      ∃ filter, (Interceptor.intercept .standard false
          ⟨.none, CallerIdentity.anonymous.user, CallerIdentity.anonymous.dataScope⟩
          s).filter = some filter ∧
        Row.matches (Row.ofTable [("user_id", .int 7)]) filter ≠ .ok true := by
  intro claims broken verify user s
  have padded : Bearer.Presents [("Authorization", "Bearer  key")] "key" :=
    Bearer.token_eq_ok.1 rfl
  have odd : Bearer.Presents [("authorization", "Bearer odd")] "odd" := Bearer.token_eq_ok.1 rfl
  have late : ¬∃ token found, Bearer.Presents [("Authorization", "Bearer  key")] token ∧
      verify token = some found ∧ found.HoldsAt ⟨9, 0⟩ := by
    rintro ⟨token, found, presents, verified, -, lasts⟩
    cases Bearer.token_eq_ok.2 presents
    cases verified
    cases lasts
  have unannounced : ¬∃ token found, Bearer.Presents [("authorization", "bearer key")] token ∧
      verify token = some found ∧ found.HoldsAt ⟨5, 0⟩ := by
    rintro ⟨token, found, presents, -⟩
    cases Bearer.token_eq_ok.2 presents
  have unknown : ∃ claim ∈ broken.roles, ¬claim.Known := by
    refine ⟨⟨⟨4⟩, " 9"⟩, by simp [broken], ?_⟩
    rintro ⟨scope, read⟩
    cases read
  exact ⟨((callers_fail_closed verify ⟨5, 0⟩ _).2.1 (some user)).2
      ⟨"key", claims, user, padded, rfl, ⟨rfl, rfl⟩, rfl, rfl, rfl⟩,
    (callers_fail_closed verify ⟨9, 0⟩ _).2.2.2.1 late,
    ((callers_fail_closed verify ⟨5, 0⟩ _).2.2.1 "odd" broken odd rfl ⟨rfl, rfl⟩).2 unknown,
    (callers_fail_closed verify ⟨5, 0⟩ _).2.2.2.1 unannounced,
    ((callers_fail_closed verify ⟨5, 0⟩ []).2.2.2.2 _).2 .standard false .none s .standard
      (by decide) rfl rfl⟩

end UserProvider

end RowGuard
