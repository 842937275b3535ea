import WriteAccess.Event
import WriteAccess.Text.Quoted

/-!
# Audit events

One audit event records each decision: which kind of credential decided, whether the request
was allowed, denied or failed, the decision's label, and the request id and tenant when known.
It is logged as `write access decision` on the audit target, at INFO when allowed and at WARN
otherwise, with the request id and tenant in diagnostic form (`None`, `Some("…")`).
-/

namespace WriteAccess

/-- The kind of credential that decided a request. -/
inductive CredentialKind where
  | bypass
  | presharedKey
  | systemIdentity
  | userIdentity
  | anonymous
  deriving DecidableEq, Repr

/-- The name of a credential kind. -/
def CredentialKind.name : CredentialKind → String
  | .bypass => "bypass"
  | .presharedKey => "psk"
  | .systemIdentity => "system_identity"
  | .userIdentity => "user_identity"
  | .anonymous => "anonymous"

/-- How a request fared. -/
inductive AuditOutcome where
  | allowed
  | denied
  | error
  deriving DecidableEq, Repr

/-- The name of an outcome. -/
def AuditOutcome.name : AuditOutcome → String
  | .allowed => "allowed"
  | .denied => "denied"
  | .error => "error"

/-- The record of one decision. -/
structure AuditEvent where
  credential : CredentialKind
  outcome : AuditOutcome
  decision : String
  requestId : Option String := none
  orgId : Option String := none
  deriving DecidableEq, Repr

namespace AuditEvent

/-- The display text of an audit event; an absent value shows as `<none>`. -/
def text (e : AuditEvent) : String :=
  "AuditEvent[credential=" ++ e.credential.name ++ ", outcome=" ++ e.outcome.name ++
    ", decision=" ++ e.decision ++ ", request_id=" ++ e.requestId.getD "<none>" ++
    ", org_id=" ++ e.orgId.getD "<none>" ++ "]"

/-- The level an audit event is logged at. -/
def level (e : AuditEvent) : Level :=
  match e.outcome with
  | .allowed => .info
  | _ => .warn

/-- The logged form of an audit event. -/
def toEvent (e : AuditEvent) : Event :=
  Event.of .audit e.level "write access decision"
    [("request_id", .text (Text.quotedOption e.requestId)),
     ("org_id", .text (Text.quotedOption e.orgId)),
     ("credential", .text e.credential.name),
     ("outcome", .text e.outcome.name),
     ("decision", .text e.decision)]

end AuditEvent

end WriteAccess
