import WriteAccess.Identity
import WriteAccess.Failure

/-!
# Request contexts

What a request brings to the gate: a request id, a presented pre-shared key, a parsed identity,
and the raw identity header it was parsed from. The key and the header are secrets.

A context is read from a bag of JSON values by four keys, checked in this order: `identity`,
`request_id`, `psk`, `x-rh-identity`. A missing key and a null are both absent; other keys are
not looked at. The first key whose value has the wrong form stops the reading: for `identity` a
value that is not an identity document, with the decoding fault as the reason; for the other
three anything but a string, with the reason `expected a string, found <kind>`.
-/

namespace WriteAccess

/-! ## Secrets

A text that must not appear in diagnostics: its diagnostic and display texts are both
`[REDACTED]`, and only `expose` gives the text itself.
-/

/-- A text kept out of diagnostics. -/
structure Secret where
  /-- The text itself. -/
  expose : String
  deriving DecidableEq, Repr

namespace Secret

/-- The text shown for any secret. -/
def redacted : String := "[REDACTED]"

/-- The diagnostic text of a secret. -/
def debugText (_ : Secret) : String := redacted

/-- The display text of a secret. -/
def displayText (_ : Secret) : String := redacted

end Secret

/-! ## Contexts -/

/-- What a request brings to the gate. -/
structure RequestContext where
  requestId : Option String := none
  presentedKey : Option Secret := none
  identity : Option Identity := none
  rawIdentityHeader : Option Secret := none
  deriving DecidableEq, Repr

namespace RequestContext

/-- A context with nothing in it. -/
def empty : RequestContext := {}

/-- The same context with a request id. -/
def withRequestId (c : RequestContext) (id : String) : RequestContext :=
  { c with requestId := some id }

/-- The same context with a presented key. -/
def withPresentedKey (c : RequestContext) (key : Secret) : RequestContext :=
  { c with presentedKey := some key }

/-- The same context with an identity. -/
def withIdentity (c : RequestContext) (identity : Identity) : RequestContext :=
  { c with identity := some identity }

/-- The same context with a raw identity header. -/
def withRawIdentityHeader (c : RequestContext) (header : Secret) : RequestContext :=
  { c with rawIdentityHeader := some header }

/-- The bag key of the identity document. -/
def identityKey : String := "identity"
/-- The bag key of the request id. -/
def requestIdKey : String := "request_id"
/-- The bag key of the presented key. -/
def pskKey : String := "psk"
/-- The bag key of the raw identity header. -/
def headerKey : String := "x-rh-identity"

/-- The value of a bag key, when present and not null. -/
def present (bag : Json.Value) (key : String) : Option Json.Value :=
  match bag.get? key with
  | some .null => none
  | v => v

/-- A text entry of a bag. -/
def stringEntry (bag : Json.Value) (key : String) : Except AuthzError (Option String) :=
  match present bag key with
  | none => .ok none
  | some (.string s) => .ok (some s)
  | some other => .error (.malformedContext key ("expected a string, found " ++ other.kindName))

/-- The identity entry of a bag. -/
def identityEntry (bag : Json.Value) : Except AuthzError (Option Identity) :=
  match present bag identityKey with
  | none => .ok none
  | some v =>
    match Identity.decode v with
    | .ok i => .ok (some i)
    | .error e => .error (.malformedContext identityKey e.message)

/-- Reads a context from a bag (a JSON object), checking the keys in order. -/
def ofBag (bag : Json.Value) : Except AuthzError RequestContext := do
  let identity ← identityEntry bag
  let requestId ← stringEntry bag requestIdKey
  let key ← stringEntry bag pskKey
  let header ← stringEntry bag headerKey
  return ⟨requestId, key.map Secret.mk, identity, header.map Secret.mk⟩

end RequestContext

end WriteAccess
