/-!
# Log events

What the gate reports as it works: events with a level, the component they come from (a
target), a message and named fields. A field holds text, a count or a flag. Events are returned
in the order they happen, beside the result of each operation, so that a caller can check both.
-/

namespace WriteAccess

/-- How serious an event is. -/
inductive Level where
  | trace
  | debug
  | info
  | warn
  | error
  deriving DecidableEq, Repr

/-- The name of a level as logs print it. -/
def Level.name : Level → String
  | .trace => "TRACE"
  | .debug => "DEBUG"
  | .info => "INFO"
  | .warn => "WARN"
  | .error => "ERROR"

/-- The value of an event field. -/
inductive FieldValue where
  | text (s : String)
  | count (n : Nat)
  | flag (b : Bool)
  deriving DecidableEq, Repr

/-- One logged event. -/
structure Event where
  level : Level
  target : String
  message : String
  fields : List (String × FieldValue)
  deriving DecidableEq, Repr

/-- The components that log, each with the target its events carry. -/
inductive Component where
  | config
  | gate
  | audit
  | accessList
  | rbacClient
  | middleware
  deriving DecidableEq, Repr

/-- The target name of a component. -/
def Component.target : Component → String
  | .config => "sources_authz::config"
  | .gate => "sources_authz::gate"
  | .audit => "sources_authz::audit"
  | .accessList => "sources_authz::rbac::acl"
  | .rbacClient => "sources_authz::rbac::client"
  | .middleware => "sources_authz::web::middleware"

/-- An event of a component. -/
def Event.of (c : Component) (level : Level) (message : String)
    (fields : List (String × FieldValue) := []) : Event :=
  ⟨level, c.target, message, fields⟩

end WriteAccess
