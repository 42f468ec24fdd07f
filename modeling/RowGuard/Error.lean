/-!
The errors of the guard, each named for its cause, with one text and one code per cause.
-/
namespace RowGuard

inductive GuardError where
  | unsupportedDataScope (code : String)
  | dataSourceNotFound (key : String)
  | missingCollaborator (name : String)
  | noActiveContext
  | dataSourceCreation (pool reason : String)
  | invalidConfig (problem : String)
  | invalidId (problem : String)
  deriving DecidableEq, Repr

namespace GuardError

def message : GuardError → String
  | unsupportedDataScope code => "unsupported data scope: " ++ code
  | dataSourceNotFound key => "datasource configuration not found for tenant " ++ key
  | missingCollaborator name => "missing collaborator: " ++ name
  | noActiveContext => "no active request context"
  | dataSourceCreation pool reason =>
    "datasource creation failed for '" ++ pool ++ "': " ++ reason
  | invalidConfig problem => "invalid configuration: " ++ problem
  | invalidId problem => "invalid identifier: " ++ problem

def code : GuardError → String
  | unsupportedDataScope _ => "unsupported_data_scope"
  | dataSourceNotFound _ => "datasource_not_found"
  | missingCollaborator _ => "missing_collaborator"
  | noActiveContext => "no_active_context"
  | dataSourceCreation _ _ => "datasource_creation"
  | invalidConfig _ => "invalid_config"
  | invalidId _ => "invalid_id"

/-- Whether wiring or configuration is at fault and not the request. -/
def isConfiguration : GuardError → Bool
  | noActiveContext => false
  | invalidId _ => false
  | _ => true

end GuardError

abbrev Guarded (α : Type) := Except GuardError α

end RowGuard
