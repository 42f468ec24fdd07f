import RowGuard.Proofs.Access.Claims
import RowGuard.Proofs.Http.Gates
/-!
Who acts as the super tenant. Under callers by bearer token it takes a token with full access, which
the first gate makes sure of before anything is selected or any handler runs.
-/
namespace RowGuard.Http.App

variable {P : Type} {app after : App P} {verify : TokenVerifier} {now : Instant} {request : Request}
  {scene : Scene P}

/-- The request carries a token that is verified, holds now and gives full access. -/
def CarriesFullAccess (verify : TokenVerifier) (now : Instant) (request : Request) : Prop :=
  ∃ claims, Bearer.Vouches verify now request.headers claims ∧ claims.FullAccess

theorem tenantOf_eq_some {id : TenantId} :
    (app.tenantOf request).id? = some id ↔
      ∃ spelling, request.headers.text? app.config.tenant.tenantHeader = some spelling ∧
        TenantId.read spelling = .ok id := by
  unfold tenantOf ActiveTenant.ofHeader
  rw [Option.bind_eq_some_iff]
  refine exists_congr fun spelling => and_congr_right fun _ => ?_
  cases TenantId.read spelling <;> simp [Except.toOption]

theorem full_of_handled (tokens : app.users = .bearer verify)
    (handled : app.handled now request = some (scene, after)) {ctx : RequestContext P}
    (current : scene.current = some ctx)
    (super : ctx.caller.tenant.id? = some app.config.tenant.superTenant) :
    CarriesFullAccess verify now request := by
  obtain ⟨caller, recognized, entered⟩ := handled_eq_some.1 handled
  obtain ⟨stack, rfl⟩ := current_of_enter entered
  cases current
  obtain ⟨identity, known, rfl, entitled⟩ := recognize_eq_ok.1 recognized
  rw [tokens] at known
  exact (Bearer.mayBeSuper_bearerIdentity known).1 (entitled super)

theorem recognize_super (tokens : app.users = .bearer verify)
    (named : (app.tenantOf request).id? = some app.config.tenant.superTenant)
    (limited : ¬CarriesFullAccess verify now request) :
    ∃ response, app.recognize now request = .error response ∧
      ((∃ claims code, Bearer.Vouches verify now request.headers claims ∧
          Claims.FirstUnknown claims.roles code ∧
          response = .failure 500 "unsupported_data_scope" ("unsupported data scope: " ++ code)) ∨
        (∀ claims, Bearer.Vouches verify now request.headers claims →
          ∀ claim ∈ claims.roles, claim.Known) ∧
          response = .failure 403 "super_tenant_forbidden"
            ("caller may not act as tenant " ++ app.config.tenant.superTenant.text)) := by
  have identify : app.users.identify now request.headers =
      UserProvider.bearerIdentity verify now request.headers := by rw [tokens]; rfl
  cases known : UserProvider.bearerIdentity verify now request.headers with
  | error e =>
    obtain ⟨claims, code, vouches, unknown, rfl⟩ := Bearer.bearerIdentity_error.1 known
    have refused : app.recognize now request = .error (.ofError (.unsupportedDataScope code)) :=
      recognize_eq_error.2 (.inl ⟨_, identify.trans known, rfl⟩)
    exact ⟨_, refused, .inl ⟨claims, code, vouches, unknown, rfl⟩⟩
  | ok identity =>
    have unentitled : identity.mayBeSuper = false :=
      eq_false_of_ne_true fun may => limited ((Bearer.mayBeSuper_bearerIdentity known).1 may)
    exact ⟨_, recognize_eq_error.2 (.inr ⟨identity, identify.trans known, named, unentitled, rfl⟩),
      .inr ⟨fun claims vouches => Bearer.known_of_bearerIdentity known vouches, rfl⟩⟩

/-- Only callers with full access act as the super tenant. Where callers come by bearer token, with
any way of verifying tokens and in any configuration, a handler that runs in a context of the super
tenant answers a request with a token that is verified, holds now, has known roles only and one that
grants every row. Every other request under the super tenant, whichever way it spells the number, is
refused before any handler runs and leaves the application with its pools as it was: for the first
unknown scope of a token that is verified and holds now, and otherwise for want of full access. -/
theorem super_tenant_takes_full_access (app : App P) (verify : TokenVerifier)
    (tokens : app.users = .bearer verify) (now : Instant) (request : Request)
    (guarded : request.path ≠ "/health") :
    (∀ scene after, app.handled now request = some (scene, after) →
      app.serve now request = (sent request (handle scene request), after) ∧
        ∀ ctx, scene.current = some ctx →
          ctx.caller.tenant.id? = some app.config.tenant.superTenant →
          CarriesFullAccess verify now request) ∧
    ∀ spelling, request.headers.text? app.config.tenant.tenantHeader = some spelling →
      TenantId.read spelling = .ok app.config.tenant.superTenant →
      ¬CarriesFullAccess verify now request →
      app.handled now request = none ∧
        ∃ response, app.serve now request = (sent request response, app) ∧
          ((∃ claims code, Bearer.Vouches verify now request.headers claims ∧
              Claims.FirstUnknown claims.roles code ∧
              response = .failure 500 "unsupported_data_scope"
                ("unsupported data scope: " ++ code)) ∨
            (∀ claims, Bearer.Vouches verify now request.headers claims →
              ∀ claim ∈ claims.roles, claim.Known) ∧
              response = .failure 403 "super_tenant_forbidden"
                ("caller may not act as tenant " ++ app.config.tenant.superTenant.text)) := by
  refine ⟨fun scene after handled => ⟨?_, fun ctx current super => ?_⟩,
    fun spelling header read limited => ?_⟩
  · rw [serve_guarded guarded, serveGuarded_handled handled]
  · exact full_of_handled tokens handled current super
  · have named := tenantOf_eq_some.2 ⟨spelling, header, read⟩
    obtain ⟨response, refused, why⟩ := recognize_super tokens named limited
    obtain ⟨unhandled, served⟩ := serveGuarded_refused refused
    exact ⟨unhandled, response, by rw [serve_guarded guarded, served], why⟩

/-- An administrator's token lets its bearer act as the super tenant, and the same request without
it is refused. -/
theorem super_tenant_takes_full_access_administrator :
    let claims : Claims :=
      { subject := ⟨7⟩, dept := ⟨3⟩, roles := [⟨⟨2⟩, "ALL"⟩]
        issuedAt := ⟨0, 0⟩, expiresAt := ⟨9, 0⟩ }
    let verify : TokenVerifier := fun token => if token = "key" then some claims else none
    let app : App Nat :=
      { config := .standard, users := .bearer verify, factory := fun n _ => .ok n }
    let stranger : Request :=
      { method := "GET", target := "/context", headers := [("x-tenant-id", " -01")] }
    let bearer : Request :=
      { stranger with headers := ("authorization", "Bearer key") :: stranger.headers }
    (app.handled ⟨5, 0⟩ stranger = none ∧ (app.serve ⟨5, 0⟩ stranger).1.status = 403) ∧
      (app.handled ⟨5, 0⟩ bearer).isSome ∧ CarriesFullAccess verify ⟨5, 0⟩ bearer := by
  intro claims verify app stranger bearer
  have unvouched : ∀ claims, ¬Bearer.Vouches verify ⟨5, 0⟩ stranger.headers claims := by
    rintro found ⟨token, sent, -⟩
    cases sent
  have refused := (super_tenant_takes_full_access app verify rfl ⟨5, 0⟩ stranger (by decide)).2
    " -01" (by decide) (by decide) (fun ⟨found, vouches, _⟩ => unvouched found vouches)
  have known : app.users.identify ⟨5, 0⟩ bearer.headers =
      .ok ⟨some ⟨⟨7⟩, ⟨3⟩, .ofList [⟨⟨2⟩, .all⟩]⟩, true⟩ := by decide
  have recognized := recognize_eq_ok.2 ⟨_, known, rfl, fun _ => by decide⟩
  have handled := handled_eq_some.2 ⟨_, recognized, enter_eq app _⟩
  have full := ((super_tenant_takes_full_access app verify rfl ⟨5, 0⟩ bearer (by decide)).1 _ _
    handled).2 _ rfl (by decide)
  refine ⟨⟨refused.1, ?_⟩, by rw [handled]; rfl, full⟩
  obtain ⟨-, response, served, ⟨found, -, vouches, -⟩ | ⟨-, rfl⟩⟩ := refused
  · exact absurd vouches (unvouched found)
  · rw [served]
    rfl

end RowGuard.Http.App
