import RowGuard.Access.Provider
import RowGuard.DataSource.Router
import RowGuard.Http.Message
import RowGuard.Interceptor
/-!
The web application. Every request but a health check passes two gates before a handler sees it:
the first finds the tenant and the caller and refuses callers that may not act as the super tenant,
the second selects the tenant's datasource. Whatever a request selects is gone with it; only the
pools it had created stay.
-/
namespace RowGuard.Http

structure App (P : Type) where
  config : GuardConfig
  users : UserProvider
  factory : PoolFactory P
  /-- Present where tenants are kept apart by datasource. -/
  router : Option (Router P) := none

structure Scene (P : Type) where
  config : GuardConfig
  task : Task
  contexts : ContextStore P

namespace Scene

variable {P : Type}

def current (scene : Scene P) : Option (RequestContext P) := scene.task.current scene.contexts

def handedOn (scene : Scene P) : Option (RequestContext P) :=
  let (captured, contexts) := scene.task.capture scene.contexts
  (captured.resume .bare).current contexts

end Scene

/-! ## Handlers -/

variable {P : Type}

def userView (user : User) : Json :=
  .obj [("user_id", user.id.toJson), ("dept_id", user.dept.toJson),
    ("roles", Json.list Role.toJson user.roles.toList)]

def handedOnView (ctx : Option (RequestContext P)) : Json :=
  .obj [("tenant_id", Json.option TenantId.toJson (ctx.bind fun c => c.caller.tenant.id?)),
    ("user_id", Json.option UserId.toJson ((ctx.bind fun c => c.caller.user).map (·.id))),
    ("datasource", Json.option Json.str ((ctx.bind RequestContext.current).map (·.key)))]

def showContext (scene : Scene P) : Response :=
  match scene.current with
  | none => .ofError .noActiveContext
  | some ctx =>
    .ok (.obj [("tenant_id", Json.option TenantId.toJson ctx.caller.tenant.id?),
      ("user", Json.option userView ctx.caller.user),
      ("data_scope_enabled", .bool ctx.caller.dataScope),
      ("isolation_level", scene.config.tenant.isolation.toJson),
      ("datasource_stack", Json.list Json.str ctx.keys),
      ("propagated", handedOnView scene.handedOn)])

def statementView (s : Statement) : Json :=
  .obj [("kind", s.kind.toJson), ("table", .str s.table),
    ("where_clause", Json.option Json.str s.whereClause), ("params", .obj s.params)]

def previewStatement (scene : Scene P) (request : Request) : Response :=
  match decodeBody Statement.decode request with
  | .error response => response
  | .ok s =>
    match scene.current with
    | none => .ofError .noActiveContext
    | some ctx =>
      .ok (statementView
        (Interceptor.intercept scene.config scene.task.suspended ctx.caller s))

/-- The response to a reader; who asks for the head only gets it without its body later on. -/
def reading (method : String) (response : Response) : Response :=
  if method == "GET" || method == "HEAD" then response else ⟨405, none⟩

def handle (scene : Scene P) (request : Request) : Response :=
  if request.path == "/context" then reading request.method (showContext scene)
  else if request.path == "/statements/preview" then
    if request.method == "POST" then previewStatement scene request else ⟨405, none⟩
  else ⟨404, none⟩

/-! ## Gates -/

namespace App

def build (config : GuardConfig) (factory : PoolFactory P) (users : Option UserProvider)
    (router : Option (Router P)) : Guarded (App P) :=
  match users with
  | none => .error (.missingCollaborator "UserContextProvider")
  | some users =>
    if config.tenant.isolation = .dataSource ∧ router.isNone then
      .error (.missingCollaborator "TenantDataSourceProvider")
    else .ok { config, users, factory, router }

def tenantOf (app : App P) (request : Request) : ActiveTenant :=
  .ofHeader (request.headers.text? app.config.tenant.tenantHeader)

def recognize (app : App P) (now : Instant) (request : Request) : Except Response Caller :=
  let tenant := app.tenantOf request
  match app.users.identify now request.headers with
  | .error e => .error (.ofError e)
  | .ok identity =>
    match tenant.id?.filter app.config.tenant.isSuper with
    | some id =>
      if identity.mayBeSuper then .ok ⟨tenant, identity.user, identity.dataScope⟩
      else
        .error (.failure 403 "super_tenant_forbidden"
          ("caller may not act as tenant " ++ id.text))
    | none => .ok ⟨tenant, identity.user, identity.dataScope⟩

def routeOf (app : App P) (caller : Caller) : Option (Router P × String) :=
  if app.config.tenant.isolation = .dataSource then do
    let router ← app.router
    let id ← caller.tenant.id?
    return (router, id.text)
  else none

/-- The second gate: what the handler sees, with the tenant's pool selected for the request, or
why the pool cannot be had. -/
def enter (app : App P) (caller : Caller) : Guarded (Scene P) × App P :=
  let (context, contexts) := ContextStore.start {} caller
  let task := Task.bare.inContext context
  match app.routeOf caller with
  | none => (.ok ⟨app.config, task, contexts⟩, app)
  | some (router, key) =>
    let (answer, router, contexts) := router.select app.factory task contexts key
    (answer.map fun _ => ⟨app.config, task, contexts⟩, { app with router := some router })

def serveGuarded (app : App P) (now : Instant) (request : Request) : Response × App P :=
  match app.recognize now request with
  | .error response => (response, app)
  | .ok caller =>
    match app.enter caller with
    | (.error e, app) => (.ofError e, app)
    | (.ok scene, app) => (handle scene request, app)

def asksForHead (request : Request) : Bool :=
  request.method == "HEAD" && ["/health", "/context"].contains request.path

def serve (app : App P) (now : Instant) (request : Request) : Response × App P :=
  let (response, app) :=
    if request.path == "/health" then (reading request.method ⟨200, none⟩, app)
    else app.serveGuarded now request
  (if asksForHead request then response.bare else response, app)

end App

end RowGuard.Http
