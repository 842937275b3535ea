import WriteAccess.Middleware
import WriteAccess.Proofs.PriorityChain

/-!
# Credentials reach the outcome only through the decision

A presented key and a raw identity header are secrets: the gate acts on them, but nothing it logs
or answers may depend on their text beyond what the decision itself depends on. Two contexts that
differ only in a key the trusted set treats alike, or only in a header the access source answers
alike, are evaluated to the same result with the same events, field values included, and the
guard in front of a handler gives them the same verdict and logs the same events. So no log
field, error text or response body is a function of the key or the header.

Both evaluations are read off the rung that decides (`Gate.evaluate_eq_rung`): the two contexts
have the same rung, or lookups of the same client whose runs the client cannot tell apart.
-/

namespace WriteAccess

/-- Two lookup runs a client cannot tell apart under its deadline: the same events logged at the
same times, the same result, and both in time or both late. -/
structure LookupRun.Alike (deadline : Duration) (r₁ r₂ : LookupRun) : Prop where
  events : r₁.events = r₂.events
  result : r₁.result = r₂.result
  finished : r₁.finishedWithin deadline = r₂.finishedWithin deadline

/-- Two contexts that differ at most in the text of one credential, where the gate at source state
`st` cannot tell the two texts apart: both present a key, and the trusted set trusts both or
neither; or both carry a raw identity header, and the gate's client, if it has one, gets alike
runs for the two headers. -/
inductive CredentialTwins (g : Gate σ) (st : σ) : RequestContext → RequestContext → Prop
  | key (x : RequestContext) (k₁ k₂ : Secret)
      (trust : g.config.trustedKeys.trusts k₁.expose = g.config.trustedKeys.trusts k₂.expose) :
      CredentialTwins g st { x with presentedKey := some k₁ } { x with presentedKey := some k₂ }
  | header (x : RequestContext) (h₁ h₂ : Secret)
      (alike : ∀ c, g.rbac = some c →
        LookupRun.Alike c.deadline (c.source.fetch st h₁.expose c.application).2
          (c.source.fetch st h₂.expose c.application).2) :
      CredentialTwins g st { x with rawIdentityHeader := some h₁ }
        { x with rawIdentityHeader := some h₂ }

namespace LookupRun.Alike

variable {d : Duration} {r₁ r₂ : LookupRun}

theorem answer_eq (h : Alike d r₁ r₂) : lookupAnswer d r₁ = lookupAnswer d r₂ := by
  simp only [lookupAnswer, h.finished, h.result]

theorem log_eq (h : Alike d r₁ r₂) : lookupLog d r₁ = lookupLog d r₂ := by
  simp only [lookupLog, LookupRun.seenBy, clientLog, LookupRun.loggedBy, h.finished, h.result,
    h.events]

end LookupRun.Alike

/-- Two rungs that give the same answer, log the same events and are audited under the same kind
at a source state; the next states may differ. -/
structure Rung.Alike (st : σ) (r₁ r₂ : Rung σ) : Prop where
  answer : (r₁.answer st).2 = (r₂.answer st).2
  log : r₁.log st = r₂.log st
  kind : r₁.kind = r₂.kind

namespace Rung.Alike

theorem refl (st : σ) (r : Rung σ) : Alike st r r := ⟨rfl, rfl, rfl⟩

/-- Lookups of one client with runs it cannot tell apart are alike rungs. -/
theorem lookup {st : σ} (c : RbacClient σ) {h₁ h₂ : String}
    (h : LookupRun.Alike c.deadline (c.source.fetch st h₁ c.application).2
      (c.source.fetch st h₂ c.application).2) :
    Alike st (.lookup c h₁) (.lookup c h₂) := by
  refine ⟨?_, ?_, rfl⟩
  · simp only [Rung.answer_lookup, h.answer_eq]
  · simp only [Rung.log, h.log_eq]

end Rung.Alike

namespace CredentialTwins

variable {g : Gate σ} {st : σ} {x₁ x₂ : RequestContext}

/-- Twins are decided by alike rungs. -/
theorem rung_alike (h : CredentialTwins g st x₁ x₂) : Rung.Alike st (g.rung x₁) (g.rung x₂) := by
  obtain ⟨config, rbac⟩ := g
  cases h with
  | key x k₁ k₂ trust =>
    -- the rung of a presented key reads only whether it is trusted
    by_cases hb : config.bypass
    · simp only [Gate.rung, hb, if_true]
      exact .refl st _
    · simp only [Gate.rung, hb, Bool.false_eq_true, if_false, trust]
      exact .refl st _
  | header x h₁ h₂ alike =>
    -- the header reaches the rung only in a lookup, where it is sent to the client
    by_cases hb : config.bypass
    · simp only [Gate.rung, hb, if_true]
      exact .refl st _
    · simp only [Gate.rung, hb, Bool.false_eq_true, if_false]
      rcases x with ⟨_, key, identity, _⟩
      cases key with
      | some k => exact .refl st _
      | none =>
        cases identity with
        | none => exact .refl st _
        | some principal =>
          cases principal with
          | system p => exact .refl st _
          | user p =>
            cases rbac with
            | none => exact .refl st _
            | some c => exact .lookup c (alike c rfl)

/-- Twins carry the same request id and the same identity. -/
theorem requestId_eq (h : CredentialTwins g st x₁ x₂) :
    x₁.requestId = x₂.requestId ∧ x₁.identity = x₂.identity := by
  cases h <;> exact ⟨rfl, rfl⟩

end CredentialTwins

/-- Contexts with the same request id and identity, decided by alike rungs, evaluate to the same
result with the same events; only the next state of the source may differ. -/
theorem Gate.evaluate_snd_of_alike (g : Gate σ) (st : σ) {x₁ x₂ : RequestContext}
    (alike : Rung.Alike st (g.rung x₁) (g.rung x₂)) (hid : x₁.requestId = x₂.requestId)
    (hident : x₁.identity = x₂.identity) :
    (g.evaluate st x₁).2 = (g.evaluate st x₂).2 := by
  rw [Gate.evaluate_eq_rung, Gate.evaluate_eq_rung]
  simp only [Gate.auditOf, alike.answer, alike.log, alike.kind, hid, hident]

/-- The guard's verdict and events are read from the evaluation's result and events and the
request id alone. -/
theorem requireWriteAccess_snd_of_evaluate (g : Gate σ) (st : σ) {x₁ x₂ : RequestContext}
    (same : (g.evaluate st x₁).2 = (g.evaluate st x₂).2) (hid : x₁.requestId = x₂.requestId) :
    (requireWriteAccess g st (some x₁)).2 = (requireWriteAccess g st (some x₂)).2 := by
  simp only [requireWriteAccess, Option.getD_some]
  rcases h₁ : g.evaluate st x₁ with ⟨n₁, e₁, r₁⟩
  rcases h₂ : g.evaluate st x₂ with ⟨n₂, e₂, r₂⟩
  rw [h₁, h₂] at same
  obtain ⟨rfl, rfl⟩ := Prod.mk.inj same
  -- the next states differ, and the verdict never reads them
  cases r₁ with
  | error e => simp only [hid]
  | ok d => cases d <;> rfl

/-- A key's text or a header's text reaches nothing but the decision: for contexts that differ
only in a key the trusted set treats alike, or only in a header the access source answers alike,
evaluation gives the same result and logs the same events, and the guard gives the same verdict
(status and body) and logs the same events. -/
theorem evaluate_blind_to_credential_text (g : Gate σ) (st : σ) {x₁ x₂ : RequestContext}
    (twins : CredentialTwins g st x₁ x₂) :
    (g.evaluate st x₁).2 = (g.evaluate st x₂).2 ∧
      (requireWriteAccess g st (some x₁)).2 = (requireWriteAccess g st (some x₂)).2 := by
  obtain ⟨hid, hident⟩ := twins.requestId_eq
  have same := g.evaluate_snd_of_alike st twins.rung_alike hid hident
  exact ⟨same, requireWriteAccess_snd_of_evaluate g st same hid⟩

/-- Two headers of a user principal, sent to a source that answers every header with the same
list at once: the two requests are evaluated and guarded alike. -/
theorem evaluate_blind_to_header_text :
    let g : Gate (List (String × String)) :=
      .new Config.empty (.new (.fixed ⟨⟨[]⟩, none, false, ⟨0⟩⟩) "sources")
    let x : RequestContext := { identity := some (.user ⟨some "1", none, none, false⟩) }
    CredentialTwins g [] { x with rawIdentityHeader := some ⟨"h1"⟩ }
        { x with rawIdentityHeader := some ⟨"h2"⟩ } ∧
      (g.evaluate [] { x with rawIdentityHeader := some ⟨"h1"⟩ }).2 =
          (g.evaluate [] { x with rawIdentityHeader := some ⟨"h2"⟩ }).2 ∧
        (requireWriteAccess g [] (some { x with rawIdentityHeader := some ⟨"h1"⟩ })).2 =
          (requireWriteAccess g [] (some { x with rawIdentityHeader := some ⟨"h2"⟩ })).2 := by
  intro g x
  have twins : CredentialTwins g [] { x with rawIdentityHeader := some ⟨"h1"⟩ }
      { x with rawIdentityHeader := some ⟨"h2"⟩ } :=
    .header x ⟨"h1"⟩ ⟨"h2"⟩ fun c hc => by
      cases hc
      exact ⟨rfl, rfl, rfl⟩
  exact ⟨twins, evaluate_blind_to_credential_text g [] twins⟩

end WriteAccess
