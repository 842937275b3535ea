import WriteAccess.Duration

/-!
# Failures

Why an access lookup or an authorization check could not reach a decision, as causes, with their
wording in one place each (`RbacError.message`, `AuthzError.message`).

A lookup fails when it passes its deadline, when the service cannot be reached or answers with a
status that is not a success, when its answer cannot be read, or when no service is configured;
a permission text that does not parse is also reported this way. An authorization check fails on
a malformed request context, on a user identity without the raw header that goes with it, or on a
failed lookup.
-/

namespace WriteAccess

/-- Why an access lookup failed. -/
inductive RbacError where
  | timeout (deadline : Duration)
  | transport (text : String)
  | status (code : Nat)
  | malformedResponse (text : String)
  | notConfigured
  | invalidPermission (text : String)
  deriving DecidableEq, Repr

/-- The wording of a lookup failure. -/
def RbacError.message : RbacError → String
  | .timeout d => "rbac request timed out after " ++ d.text
  | .transport text => "rbac transport error: " ++ text
  | .status code => "rbac returned status " ++ toString code
  | .malformedResponse text => "malformed rbac response: " ++ text
  | .notConfigured => "rbac client not configured"
  | .invalidPermission text => "invalid permission '" ++ text ++ "'"

/-- The name of the kind of a lookup failure. -/
def RbacError.kind : RbacError → String
  | .timeout _ => "Timeout"
  | .transport _ => "Transport"
  | .status _ => "Status"
  | .malformedResponse _ => "MalformedResponse"
  | .notConfigured => "NotConfigured"
  | .invalidPermission _ => "InvalidPermission"

/-- Why an authorization check reached no decision. -/
inductive AuthzError where
  | malformedContext (key : String) (reason : String)
  | missingIdentityHeader
  | rbac (cause : RbacError)
  deriving DecidableEq, Repr

/-- The wording of an authorization failure. -/
def AuthzError.message : AuthzError → String
  | .malformedContext key reason => "malformed request context entry '" ++ key ++ "': " ++ reason
  | .missingIdentityHeader => "parsed user identity present without a raw identity header"
  | .rbac cause => "error hitting rbac: " ++ cause.message

/-- The name of the kind of an authorization failure; a lookup failure is named after its cause. -/
def AuthzError.kind : AuthzError → String
  | .malformedContext _ _ => "MalformedContext"
  | .missingIdentityHeader => "MissingIdentityHeader"
  | .rbac cause => "Rbac." ++ cause.kind

end WriteAccess
