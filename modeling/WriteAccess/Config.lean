import WriteAccess.Credential.TrustedKeys
import WriteAccess.Event
import WriteAccess.Url.Parser

/-!
# Configuration

What the gate is configured with: whether checks are bypassed, the trusted pre-shared keys, the
base URL of the access-control service, and the application name lookups are made for.

`Config.ofLookup` reads the four environment variables through a lookup function. Bypass holds
only when `BYPASS_RBAC` trims to `true`; `SOURCES_PSKS` is a comma-separated key list;
`RBAC_APPLICATION` and `RBAC_URL` are taken trimmed unless they are blank. A URL that does not
parse is an error and nothing is logged; otherwise a missing URL is warned about unless checks
are bypassed, and the loaded settings are logged.
-/

namespace WriteAccess

/-- Why a configuration could not be built. -/
inductive ConfigError where
  | missingRbacUrl
  | invalidRbacUrl (url : String) (cause : Url.ParseError)
  | client (text : String)
  deriving DecidableEq, Repr

/-- The wording of a configuration error. -/
def ConfigError.message : ConfigError → String
  | .missingRbacUrl => "RBAC_URL is not configured"
  | .invalidRbacUrl url cause => "invalid RBAC_URL '" ++ url ++ "': " ++ cause.message
  | .client text => "failed to build rbac http client: " ++ text

/-- The name of the kind of a configuration error. -/
def ConfigError.kind : ConfigError → String
  | .missingRbacUrl => "MissingRbacUrl"
  | .invalidRbacUrl _ _ => "InvalidRbacUrl"
  | .client _ => "Client"

/-- The settings of the gate. -/
structure Config where
  bypass : Bool
  trustedKeys : TrustedKeys
  rbacUrl : Option Url
  rbacApplication : String

namespace Config

/-- The application lookups are made for when none is configured. -/
def defaultApplication : String := "sources"

/-- No bypass, no keys, no service, the default application. -/
def empty : Config := ⟨false, TrustedKeys.empty, none, defaultApplication⟩

/-- The configuration with bypass switched on or off. -/
def withBypass (c : Config) (bypass : Bool) : Config := { c with bypass }

/-- The configuration with these trusted keys. -/
def withTrustedKeys (c : Config) (keys : TrustedKeys) : Config := { c with trustedKeys := keys }

/-- The configuration with this application name, taken as it is. -/
def withRbacApplication (c : Config) (application : String) : Config :=
  { c with rbacApplication := application }

/-- The configuration with the service at this URL; an error if the text is not a URL. -/
def withRbacUrl (c : Config) (url : String) : Except ConfigError Config :=
  match Url.parse url with
  | .ok u => .ok { c with rbacUrl := some u }
  | .error e => .error (.invalidRbacUrl url e)

/-- The variable that switches bypass on. -/
def bypassVariable : String := "BYPASS_RBAC"

/-- The variable holding the trusted keys. -/
def keysVariable : String := "SOURCES_PSKS"

/-- The variable holding the service URL. -/
def urlVariable : String := "RBAC_URL"

/-- The variable holding the application name. -/
def applicationVariable : String := "RBAC_APPLICATION"

/-- A looked-up value, unless it is absent or blank. -/
def nonBlank (value : Option String) : Option String :=
  value.filter (fun v => !Text.isAllBlank v)

/-- The event that reports a loaded configuration. -/
def loadedEvent (c : Config) : Event :=
  Event.of .config .debug "authorization config loaded"
    [("bypass", .flag c.bypass), ("trusted_keys", .count c.trustedKeys.size),
      ("rbac_application", .text c.rbacApplication)]

/-- The event that warns that user principals cannot be checked. -/
def missingUrlEvent : Event :=
  Event.of .config .warn "RBAC_URL not set, user principals cannot be authorized"

/-- The configuration read through a lookup of environment variables, with the events logged
while reading it. -/
def ofLookup (lookup : String → Option String) : List Event × Except ConfigError Config :=
  let bypass := (lookup bypassVariable).any (fun v => Text.trimBlanks v = "true")
  let keys := ((lookup keysVariable).map TrustedKeys.ofCsv).getD TrustedKeys.empty
  let base := (empty.withBypass bypass).withTrustedKeys keys
  let base :=
    match nonBlank (lookup applicationVariable) with
    | some app => base.withRbacApplication (Text.trimBlanks app)
    | none => base
  match nonBlank (lookup urlVariable) with
  | some raw =>
    match base.withRbacUrl (Text.trimBlanks raw) with
    | .ok c => ([loadedEvent c], .ok c)
    | .error e => ([], .error e)
  | none =>
    if bypass then ([loadedEvent base], .ok base)
    else ([missingUrlEvent, loadedEvent base], .ok base)

end Config

end WriteAccess
