import WriteAccess.Failure

/-!
# Permissions

A permission is a triple `service:resource_type:verb`. It is read from text split at every
colon: exactly three parts with a non-empty service, nothing trimmed. It grants a requested
triple when the services are equal and the grant's resource type and verb are each `*` or equal
to the requested ones; a `*` in the request is only matched by a `*` in the grant.
-/

namespace WriteAccess

/-- A permission triple. -/
structure Permission where
  service : String
  resourceType : String
  verb : String
  deriving DecidableEq, Repr

namespace Permission

/-- The wildcard of a resource type or verb. -/
def wildcard : String := "*"

/-- The text of a permission, its parts joined by colons. -/
def text (p : Permission) : String := p.service ++ ":" ++ p.resourceType ++ ":" ++ p.verb

/-- Reads a permission from its text; `none` unless the text has exactly three parts and the
first is not empty. -/
def parse? (s : String) : Option Permission :=
  match s.toList.splitOn ':' with
  | [service, resourceType, verb] =>
    if service = [] then none
    else some ⟨String.ofList service, String.ofList resourceType, String.ofList verb⟩
  | _ => none

/-- Reads a permission from its text, or fails naming the whole text. -/
def read (s : String) : Except RbacError Permission :=
  match parse? s with
  | some p => .ok p
  | none => .error (.invalidPermission s)

/-- Whether a granted field covers a requested one. -/
def fieldCovers (granted requested : String) : Bool := granted == wildcard || granted == requested

/-- Whether a permission grants the requested triple. -/
def grants (p : Permission) (service resourceType verb : String) : Bool :=
  p.service == service && fieldCovers p.resourceType resourceType && fieldCovers p.verb verb

end Permission

end WriteAccess
