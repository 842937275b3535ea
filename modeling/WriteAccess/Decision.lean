import WriteAccess.Rejection

/-!
# Decisions

The answer of the gate when it reaches one: allow, or one of three denials. Each denial has a
fixed message for the caller, which never repeats a credential, and a rejection document with
the status `401`; an allow has neither.
-/

namespace WriteAccess

/-- The gate's answer. -/
inductive Decision where
  | allow
  | denyUnauthenticated
  | denyBadPsk
  | denyBadRbac
  deriving DecidableEq, Repr

namespace Decision

/-- Whether the request may proceed. -/
def isAllowed : Decision → Bool
  | .allow => true
  | _ => false

/-- The label of a decision in audit events. -/
def label : Decision → String
  | .allow => "allow"
  | .denyUnauthenticated => "deny_unauthenticated"
  | .denyBadPsk => "deny_bad_psk"
  | .denyBadRbac => "deny_bad_rbac"

/-- The decision of a label. -/
def ofLabel? : String → Option Decision
  | "allow" => some .allow
  | "deny_unauthenticated" => some .denyUnauthenticated
  | "deny_bad_psk" => some .denyBadPsk
  | "deny_bad_rbac" => some .denyBadRbac
  | _ => none

/-- The message of a denial for the caller. -/
def message? : Decision → Option String
  | .allow => none
  | .denyUnauthenticated =>
    some "Authentication required by either [x-rh-identity] or [x-rh-sources-psk]"
  | .denyBadPsk => some "Unauthorized Action: Incorrect PSK"
  | .denyBadRbac => some "Unauthorized Action: Missing RBAC permissions"

/-- The rejection document of a denial. -/
def rejection? (d : Decision) : Option ErrorDocument :=
  d.message?.map fun m => ErrorDocument.single m ErrorDocument.unauthorizedStatus

end Decision

end WriteAccess
