import WriteAccess.Audit
import WriteAccess.Context
import WriteAccess.Decision
import WriteAccess.Rbac.Http

/-!
# The write gate

Decides whether a request may write. The first credential present decides, in this order:

1. bypass switched on in the configuration: allow;
2. a pre-shared key: allow when it is trusted, else deny it; any identity is ignored;
3. an identity: a system principal is allowed as it is; a user principal needs the raw identity
   header, which is looked up in the access-control service (an error when no client is
   configured), and is allowed when the list grants writing, else denied;
4. nothing: deny as unauthenticated. A raw header alone counts as nothing.

Every evaluation logs one audit event after whatever the decision logged, naming the kind of
credential, the outcome and the decision (`internal_error` on an error), with the request id and
the tenant of the context's identity, whichever credential decided.
-/

namespace WriteAccess

/-- The credential that decides a request. -/
inductive Credential where
  | bypass
  | presharedKey (key : Secret)
  | identity (principal : Identity) (rawHeader : Option Secret)
  | anonymous

/-- The audit kind of a credential. -/
def Credential.kind : Credential → CredentialKind
  | .bypass => .bypass
  | .presharedKey _ => .presharedKey
  | .identity (.system _) _ => .systemIdentity
  | .identity (.user _) _ => .userIdentity
  | .anonymous => .anonymous

/-- The gate: its configuration and, when user principals can be checked, its client. -/
structure Gate (σ : Type) where
  config : Config
  rbac : Option (RbacClient σ)

namespace Gate

/-- A gate that checks user principals with a client. -/
def new (config : Config) (rbac : RbacClient σ) : Gate σ := ⟨config, some rbac⟩

/-- A gate that cannot check user principals. -/
def withoutRbac (config : Config) : Gate σ := ⟨config, none⟩

/-- The gate a configuration describes, with a client over the transport when a URL is
configured. -/
def ofConfig (config : Config) (t : Http.Transport τ) : Except ConfigError (Gate τ) :=
  match config.rbacUrl with
  | some _ => (RbacClient.ofConfig config t).map (new config)
  | none => .ok (withoutRbac config)

/-- The credential that decides a context. -/
def selectCredential (g : Gate σ) (ctx : RequestContext) : Credential :=
  if g.config.bypass then .bypass
  else
    match ctx.presentedKey, ctx.identity with
    | some key, _ => .presharedKey key
    | none, some principal => .identity principal ctx.rawIdentityHeader
    | none, none => .anonymous

/-- Whether evaluating a context asks the access-control service. -/
def asksService (g : Gate σ) (ctx : RequestContext) : Bool :=
  match g.selectCredential ctx, g.rbac with
  | .identity (.user _) (some _), some _ => true
  | _, _ => false

/-- The event logged when bypass decides. -/
def skippedEvent : Event :=
  Event.of .gate .debug "authorization check skipped, disabled by configuration"

/-- The decision a credential leads to, or the error; with the next state of the service and
the events logged. -/
def decide (g : Gate σ) (st : σ) : Credential → σ × List Event × Except AuthzError Decision
  | .bypass => (st, [skippedEvent], .ok .allow)
  | .presharedKey key =>
    (st, [], .ok (if g.config.trustedKeys.trusts key.expose then .allow else .denyBadPsk))
  | .identity (.system _) _ => (st, [], .ok .allow)
  | .identity (.user _) none => (st, [], .error .missingIdentityHeader)
  | .identity (.user _) (some header) =>
    match g.rbac with
    | none => (st, [], .error (.rbac .notConfigured))
    | some client =>
      let (next, events, result) := client.checkAccess st header.expose
      (next, events,
        match result with
        | .ok true => .ok .allow
        | .ok false => .ok .denyBadRbac
        | .error e => .error (.rbac e))
  | .anonymous => (st, [], .ok .denyUnauthenticated)

/-- The audit record of an evaluation. -/
def auditOf (kind : CredentialKind) (ctx : RequestContext)
    (result : Except AuthzError Decision) : AuditEvent :=
  let (outcome, label) :=
    match result with
    | .ok d => (if d.isAllowed then AuditOutcome.allowed else .denied, d.label)
    | .error _ => (.error, "internal_error")
  { credential := kind, outcome, decision := label, requestId := ctx.requestId,
    orgId := ctx.identity.bind Identity.orgId }

/-- Evaluates a context: the decision or the error, with the next state of the service and the
events logged, the audit event last. -/
def evaluate (g : Gate σ) (st : σ) (ctx : RequestContext) :
    σ × List Event × Except AuthzError Decision :=
  let credential := g.selectCredential ctx
  let (next, events, result) := g.decide st credential
  (next, events ++ [(auditOf credential.kind ctx result).toEvent], result)

end Gate

end WriteAccess
