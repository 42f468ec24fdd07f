import RowGuard.Access.Claims
import RowGuard.Http.Header
import RowGuard.Text.Blank
/-!
Callers named by a bearer token in the authorization header. How tokens are verified is left open.
-/
namespace RowGuard

inductive BearerError where
  | missing
  | malformed
  | rejected
  | window (reason : WindowError)
  deriving DecidableEq, Repr

def BearerError.message : BearerError → String
  | .missing => "no bearer token"
  | .malformed => "malformed authorization header"
  | .rejected => "token rejected"
  | .window reason => reason.message

abbrev TokenVerifier := String → Option Claims

namespace Bearer

def announced? (header : String) : Option String :=
  match header.toList with
  | 'B' :: 'e' :: 'a' :: 'r' :: 'e' :: 'r' :: ' ' :: rest => some (String.ofList rest)
  | _ => none

def token (headers : Http.Headers) : Except BearerError String :=
  match headers.get? "authorization" with
  | none => .error .missing
  | some header =>
    if Http.Headers.isText header then
      match (announced? header).map Text.trim with
      | some token => if token.isEmpty then .error .malformed else .ok token
      | none => .error .malformed
    else .error .malformed

def claims (verify : TokenVerifier) (headers : Http.Headers) (now : Instant) :
    Except BearerError Claims := do
  let token ← token headers
  match verify token with
  | none => .error .rejected
  | some claims =>
    match claims.check now with
    | .ok _ => .ok claims
    | .error reason => .error (.window reason)

end Bearer

end RowGuard
