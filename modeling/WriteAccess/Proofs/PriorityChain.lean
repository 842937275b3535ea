import Mathlib
import WriteAccess.Gate

/-!
# The priority chain

The gate's decision as its documentation orders it: the first signal present decides, in the
order bypass, pre-shared key, identity, nothing. `Gate.rung` names the rung that decides a
request, written from that order alone. The gate reaches the same place in two matches, one that
picks the credential (`Gate.selectCredential`) and one that decides on it (`Gate.decide`), and it
reads the audit kind off the credential apart from both; `Gate.rungOf` is the abstraction that
ties a credential to its rung.

Each rung says what the gate answers (`Rung.answer`), with the next state of the access source,
and what it logs before the audit event (`Rung.log`). Every rung but a user lookup settles without
calling the source; a lookup calls it exactly once, for the header and the client's application,
and reads the run it gets under the client's deadline.

Main statement: evaluation follows the chain (`evaluate_follows_priority_chain`), and more fully
`evaluate_eq_rung`, which the other properties of the gate are read from.
-/

namespace WriteAccess

/-! ## Lookups under a deadline -/

/-- Whether a lookup run finished within a deadline; finishing at the deadline counts. -/
def LookupRun.finishedWithin (run : LookupRun) (deadline : Duration) : Bool :=
  run.elapsed.any (·.nanos ≤ deadline.nanos)

/-- What a lookup run answers under a deadline: allow when it finished in time with a list that
grants `sources:*:*`, a deny when the list does not, the source's error when it finished in time
with one, and a timeout carrying the deadline when it finished late or never. -/
def lookupAnswer (deadline : Duration) (run : LookupRun) : Except AuthzError Decision :=
  if run.finishedWithin deadline then
    match run.result with
    | .ok acl => .ok (if acl.isAllowed "sources" "*" "*" then .allow else .denyBadRbac)
    | .error e => .error (.rbac e)
  else .error (.rbac (.timeout deadline))

/-- The events of a run that stay in the log under a deadline: all of them when it finished in
time, and those it logged by the deadline when it did not. -/
def LookupRun.seenBy (run : LookupRun) (deadline : Duration) : List Event :=
  if run.finishedWithin deadline then run.events.map TimedEvent.event else run.loggedBy deadline

/-- What the client logs itself after a run under a deadline: when the run finished in time with a
list, the verdict on it with the list's size; nothing when it finished in time with an error; and
when it was late, the cancellation, with the deadline in whole milliseconds. -/
def clientLog (deadline : Duration) (run : LookupRun) : List Event :=
  if run.finishedWithin deadline then
    match run.result with
    | .ok acl =>
      [⟨.debug, "sources_authz::rbac::client", "rbac access list evaluated",
        [("grants", .count acl.size), ("allowed", .flag (acl.isAllowed "sources" "*" "*")),
          ("service", .text "sources"), ("resource_type", .text "*"), ("verb", .text "*")]⟩]
    | .error _ => []
  else
    [⟨.warn, "sources_authz::rbac::client", "rbac lookup cancelled at deadline",
      [("deadline_ms", .count deadline.wholeMillis)]⟩]

/-- What a lookup run logs under a deadline: the source's events that stay, then the client's. -/
def lookupLog (deadline : Duration) (run : LookupRun) : List Event :=
  run.seenBy deadline ++ clientLog deadline run

namespace RbacClient

theorem inTime_elapsed (d : Duration) (run : LookupRun) :
    inTime d run.elapsed = run.finishedWithin d := by
  rcases run with ⟨_, _ | _, _⟩ <;> rfl

/-- `getAccess` passes on a run that finished in time, and cuts a late one at the deadline, where
the cancellation follows what the run had logged. -/
theorem getAccess_of_fetch (c : RbacClient σ) {st next : σ} {header : String} {run : LookupRun}
    (h : c.source.fetch st header c.application = (next, run)) :
    c.getAccess st header =
      if run.finishedWithin c.deadline then (next, run.events.map TimedEvent.event, run.result)
      else
        (next, run.loggedBy c.deadline ++ [cancelledEvent c.deadline],
          .error (.timeout c.deadline)) := by
  simp only [getAccess, h, inTime_elapsed]

/-- `checkAccess` is one call of the source; a list that came in time is checked for the write
permission and the verdict logged after the source's events. -/
theorem checkAccess_of_fetch (c : RbacClient σ) {st next : σ} {header : String}
    {run : LookupRun} (h : c.source.fetch st header c.application = (next, run)) :
    c.checkAccess st header =
      if run.finishedWithin c.deadline then
        match run.result with
        | .ok acl =>
          (next, run.events.map TimedEvent.event ++ [evaluatedEvent acl acl.allowsWrite],
            .ok acl.allowsWrite)
        | .error e => (next, run.events.map TimedEvent.event, .error e)
      else
        (next, run.loggedBy c.deadline ++ [cancelledEvent c.deadline],
          .error (.timeout c.deadline)) := by
  unfold checkAccess
  rw [getAccess_of_fetch c h]
  cases run.finishedWithin c.deadline
  · rfl
  · cases run.result <;> rfl

end RbacClient

/-! ## The chain -/

/-- The rung of the priority chain that decides a request. A presented key carries only whether
it is trusted; a user lookup carries the client and the header text it sends. -/
inductive Rung (σ : Type) where
  | bypass
  | presharedKey (trusted : Bool)
  | systemIdentity
  | missingHeader
  | unconfigured
  | lookup (client : RbacClient σ) (header : String)
  | anonymous

namespace Rung

/-- What a rung answers, with the next state of the access source. Only a lookup calls the
source, and it calls it once. -/
def answer : Rung σ → σ → σ × Except AuthzError Decision
  | .bypass, st => (st, .ok .allow)
  | .presharedKey trusted, st => (st, .ok (if trusted then .allow else .denyBadPsk))
  | .systemIdentity, st => (st, .ok .allow)
  | .missingHeader, st => (st, .error .missingIdentityHeader)
  | .unconfigured, st => (st, .error (.rbac .notConfigured))
  | .lookup c header, st =>
    let (next, run) := c.source.fetch st header c.application
    (next, lookupAnswer c.deadline run)
  | .anonymous, st => (st, .ok .denyUnauthenticated)

/-- What a rung logs before the audit event: the skip under bypass, the lookup's events for a
lookup, nothing otherwise. -/
def log : Rung σ → σ → List Event
  | .bypass, _ =>
    [⟨.debug, "sources_authz::gate", "authorization check skipped, disabled by configuration", []⟩]
  | .lookup c header, st => lookupLog c.deadline (c.source.fetch st header c.application).2
  | _, _ => []

theorem answer_lookup (c : RbacClient σ) (header : String) (st : σ) :
    (Rung.lookup c header).answer st =
      ((c.source.fetch st header c.application).1,
        lookupAnswer c.deadline (c.source.fetch st header c.application).2) := rfl

/-- The audit kind of a rung: every user rung is a user identity, whatever became of it. -/
def kind : Rung σ → CredentialKind
  | .bypass => .bypass
  | .presharedKey _ => .presharedKey
  | .systemIdentity => .systemIdentity
  | .missingHeader | .unconfigured | .lookup _ _ => .userIdentity
  | .anonymous => .anonymous

end Rung

namespace Gate

/-- The rung that decides a context: bypass first; then a presented key, whatever identity or
header comes with it; then the identity, where a system principal needs nothing more and a user
principal needs its header before a client; else nothing, even when a header came alone. -/
def rung (g : Gate σ) (x : RequestContext) : Rung σ :=
  if g.config.bypass then .bypass
  else
    match x.presentedKey, x.identity, x.rawIdentityHeader, g.rbac with
    | some k, _, _, _ => .presharedKey (g.config.trustedKeys.trusts k.expose)
    | none, some (.system _), _, _ => .systemIdentity
    | none, some (.user _), none, _ => .missingHeader
    | none, some (.user _), some _, none => .unconfigured
    | none, some (.user _), some h, some c => .lookup c h.expose
    | none, none, _, _ => .anonymous

/-! ## From credentials to rungs -/

/-- The rung a credential leads to under a gate. -/
def rungOf (g : Gate σ) : Credential → Rung σ
  | .bypass => .bypass
  | .presharedKey k => .presharedKey (g.config.trustedKeys.trusts k.expose)
  | .identity (.system _) _ => .systemIdentity
  | .identity (.user _) none => .missingHeader
  | .identity (.user _) (some h) =>
    match g.rbac with
    | none => .unconfigured
    | some c => .lookup c h.expose
  | .anonymous => .anonymous

/-- The credential the gate picks leads to the rung the chain names. -/
theorem rungOf_selectCredential (g : Gate σ) (x : RequestContext) :
    g.rungOf (g.selectCredential x) = g.rung x := by
  obtain ⟨config, rbac⟩ := g
  unfold selectCredential rung
  by_cases hb : config.bypass
  · simp [hb, rungOf]
  · simp only [hb, Bool.false_eq_true, if_false]
    rcases x with ⟨_, key, identity, header⟩
    cases key with
    | some k => rfl
    | none =>
      cases identity with
      | none => rfl
      | some principal =>
        cases principal with
        | system p => rfl
        | user p =>
          -- a user principal is the one place where the header and the client are read
          cases header with
          | none => rfl
          | some h => cases rbac <;> rfl

/-- The audit kind the gate reads off a credential, with its guard on system principals, is the
kind of the credential's rung. -/
theorem kind_rungOf (g : Gate σ) (c : Credential) : (g.rungOf c).kind = c.kind := by
  obtain ⟨config, rbac⟩ := g
  cases c with
  | identity principal header =>
    cases principal with
    | system p => rfl
    | user p =>
      cases header with
      | none => rfl
      | some h => cases rbac <;> rfl
  | _ => rfl

/-- A user principal with its header, under a gate with a client, is decided by one lookup: the
gate's reading of the check is the lookup's answer, and the check's events are its log. -/
theorem decide_lookup (g : Gate σ) (st : σ) (p : UserPrincipal) (h : Secret) {c : RbacClient σ}
    (hc : g.rbac = some c) :
    g.decide st (.identity (.user p) (some h)) =
      (((Rung.lookup c h.expose).answer st).1, (Rung.lookup c h.expose).log st,
        ((Rung.lookup c h.expose).answer st).2) := by
  rcases hf : c.source.fetch st h.expose c.application with ⟨next, run⟩
  simp only [decide, hc, Rung.answer, Rung.log, RbacClient.checkAccess_of_fetch c hf, hf]
  cases hw : run.finishedWithin c.deadline
  · -- late: what the run logged by the deadline, the cancellation, and a timeout carrying the
    -- deadline
    simp [lookupLog, LookupRun.seenBy, clientLog, lookupAnswer, hw, RbacClient.cancelledEvent,
      Event.of, Component.target]
  · rcases run with ⟨events, elapsed, _ | acl⟩
    · simp [lookupLog, LookupRun.seenBy, clientLog, lookupAnswer, hw]
    · -- in time with a list: the verdict on `sources:*:*` decides and is logged
      cases ha : acl.isAllowed "sources" "*" "*" <;>
        simp [lookupLog, LookupRun.seenBy, clientLog, lookupAnswer, hw, ha,
          RbacClient.evaluatedEvent, AccessList.allowsWrite, Event.of, Component.target,
          AccessList.required, Permission.wildcard]

/-- Deciding a credential is running its rung. -/
theorem decide_eq_rungOf (g : Gate σ) (st : σ) (c : Credential) :
    g.decide st c = (((g.rungOf c).answer st).1, (g.rungOf c).log st, ((g.rungOf c).answer st).2) := by
  cases c with
  | identity principal header =>
    cases principal with
    | system p => rfl
    | user p =>
      cases header with
      | none => rfl
      | some h =>
        cases hc : g.rbac with
        | none => simp [decide, rungOf, hc, Rung.answer, Rung.log]
        | some c =>
          simp only [rungOf, hc]
          exact decide_lookup g st p h hc
  | _ => rfl

/-- Evaluation is the run of the rung that decides, with the audit event of its kind after the
rung's own events. -/
theorem evaluate_eq_rung (g : Gate σ) (st : σ) (x : RequestContext) :
    g.evaluate st x =
      (((g.rung x).answer st).1,
        (g.rung x).log st ++ [(auditOf (g.rung x).kind x ((g.rung x).answer st).2).toEvent],
        ((g.rung x).answer st).2) := by
  have hkind : (g.selectCredential x).kind = (g.rung x).kind := by
    rw [← kind_rungOf g, rungOf_selectCredential]
  simp only [evaluate, decide_eq_rungOf, rungOf_selectCredential, hkind]

/-- Evaluation follows the priority chain: the result, and the next state of the access source,
are those of the rung that decides. So bypass, a presented key (trusted or not), a system
principal, a user principal without its header or without a client, and a request with nothing
in it are all settled without calling the source, and a user principal with its header and a
client calls it exactly once, for that header and the client's application, and is answered from
that one run under the client's deadline. -/
theorem evaluate_follows_priority_chain (g : Gate σ) (st : σ) (x : RequestContext) :
    ((g.evaluate st x).1, (g.evaluate st x).2.2) = (g.rung x).answer st := by
  rw [evaluate_eq_rung]

/-- A key decides alone: the user principal and the header beside it cause no call. -/
example :
    let g : Gate (List (String × String)) :=
      .new (Config.empty.withTrustedKeys ⟨["abc"]⟩) (.new (.fixed ⟨⟨[]⟩, none, false, ⟨0⟩⟩) "sources")
    let x : RequestContext :=
      { presentedKey := some ⟨"zzz"⟩, identity := some (.user ⟨some "1", none, none, false⟩),
        rawIdentityHeader := some ⟨"h1"⟩ }
    (g.evaluate [] x).1 = [] ∧ (g.evaluate [] x).2.2 = .ok .denyBadPsk :=
  ⟨rfl, rfl⟩

/-- A user principal with its header is looked up once, for the header and the application. -/
example :
    let g : Gate (List (String × String)) :=
      .new Config.empty (.new (.fixed ⟨⟨[]⟩, none, false, ⟨0⟩⟩) "sources")
    let x : RequestContext :=
      { identity := some (.user ⟨some "1", none, none, false⟩), rawIdentityHeader := some ⟨"h1"⟩ }
    (g.evaluate [] x).1 = [("h1", "sources")] ∧ (g.evaluate [] x).2.2 = .ok .denyBadRbac :=
  ⟨rfl, rfl⟩

end Gate

end WriteAccess
