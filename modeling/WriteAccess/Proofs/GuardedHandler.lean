import Mathlib
import WriteAccess.Middleware

/-!
# The guard in front of a handler

What a guarded endpoint does with a request, read from the evaluation of the context the request
carries, or of the empty context when it carries none:

* allowed, the request is handed to the handler as it came, the handler runs once, and its
  response is the answer;
* denied, the handler does not run, and the answer is `401` with a document whose one error names
  the denial's message;
* failed, the handler does not run, the answer is `500` with a document that names no part of the
  failure, and one more event logs the failure's message with the request id.

The bodies are written out below as the compact JSON the caller receives.
-/

namespace WriteAccess

/-- The body of the `401` answer to a denial with message `m`. -/
def deniedBody (m : String) : String :=
  "\x7b\"errors\":[\x7b\"detail\":\"" ++ m ++ "\",\"status\":\"401\"\x7d]\x7d"

/-- The body of every `500` answer. -/
def failedBody : String :=
  "\x7b\"errors\":[\x7b\"detail\":\"Internal Server Error\",\"status\":\"500\"\x7d]\x7d"

/-- The event that logs a failed evaluation: the failure's message and the request id in
diagnostic form. -/
def failureLine (e : AuthzError) (requestId : Option String) : Event :=
  ⟨.error, "sources_authz::web::middleware", "authorization check failed",
    [("error", .text e.message), ("request_id", .text (Text.quotedOption requestId))]⟩

/-- Every denial has a message, and only allow has none. -/
theorem Decision.message?_isSome (d : Decision) : d.message?.isSome = !d.isAllowed := by
  cases d <;> rfl

/-- A denial's document is written with its message as it stands: the three messages need no
escaping. -/
theorem Decision.rejection?_text (d : Decision) :
    d.rejection?.map ErrorDocument.text = d.message?.map deniedBody := by
  cases d <;> decide +kernel

theorem ErrorDocument.internal_text : ErrorDocument.internal.text = failedBody := by
  decide +kernel

/-- The context a request without one is evaluated with is the default context. -/
theorem RequestContext.empty_eq_default : RequestContext.empty = {} := rfl

section Outcomes

variable (g : Gate σ) (st : σ) (attached : ρ → Option RequestContext) (next : Handler ρ η)
  (h : η) (request : ρ) {st₁ : σ} {events : List Event}

/-- An allowed request is answered by the handler, run once on it. -/
theorem serveGuarded_of_allow
    (he : g.evaluate st ((attached request).getD {}) = (st₁, events, .ok .allow)) :
    serveGuarded g st attached next h request =
      (st₁, (next.run request h).1, events, (next.run request h).2) := by
  simp only [serveGuarded, requireWriteAccess, RequestContext.empty_eq_default, he]
  rfl

/-- A denied request is answered `401` with the denial's message, and the handler does not run. -/
theorem serveGuarded_of_deny {d : Decision} {m : String}
    (he : g.evaluate st ((attached request).getD {}) = (st₁, events, .ok d))
    (hm : d.message? = some m) :
    serveGuarded g st attached next h request = (st₁, h, events, ⟨401, deniedBody m⟩) := by
  -- the denial's document is the one whose text is the body
  have htext := Decision.rejection?_text d
  rw [hm, Option.map_some, Option.map_eq_some_iff] at htext
  obtain ⟨doc, hdoc, hbody⟩ := htext
  simp only [serveGuarded, requireWriteAccess, RequestContext.empty_eq_default, he, hdoc, hbody]

/-- A failed evaluation is answered `500`, the handler does not run, and the failure is logged. -/
theorem serveGuarded_of_error {e : AuthzError}
    (he : g.evaluate st ((attached request).getD {}) = (st₁, events, .error e)) :
    serveGuarded g st attached next h request =
      (st₁, h, events ++ [failureLine e ((attached request).getD {}).requestId],
        ⟨500, failedBody⟩) := by
  simp only [serveGuarded, requireWriteAccess, RequestContext.empty_eq_default, he,
    ErrorDocument.internal_text]
  rfl

end Outcomes

/-- The guard follows the evaluation of the context the request carries, or of the empty context
when it carries none. Allowed, the request goes to the handler as it came, the handler runs once
(its state moves by one run) and its response is the answer. Denied, the handler does not run (its
state is left as it was) and the answer is `401` with the denial's message. Failed, the handler
does not run, the answer is `500` with a body that is the same for every failure, and the guard
logs exactly one event after the evaluation's, naming the failure and the request id. -/
theorem serveGuarded_follows_evaluation (g : Gate σ) (st : σ)
    (attached : ρ → Option RequestContext) (next : Handler ρ η) (h : η) (request : ρ) :
    let x := (attached request).getD {}
    let e := g.evaluate st x
    (e.2.2 = .ok .allow →
      serveGuarded g st attached next h request =
        (e.1, (next.run request h).1, e.2.1, (next.run request h).2)) ∧
    (∀ d, e.2.2 = .ok d → d ≠ .allow →
      ∃ m, d.message? = some m ∧
        serveGuarded g st attached next h request = (e.1, h, e.2.1, ⟨401, deniedBody m⟩)) ∧
    (∀ err, e.2.2 = .error err →
      serveGuarded g st attached next h request =
        (e.1, h, e.2.1 ++ [failureLine err x.requestId], ⟨500, failedBody⟩)) := by
  intro x e
  have he : g.evaluate st x = (e.1, e.2.1, e.2.2) := rfl
  refine ⟨fun hallow => ?_, fun d hd hdeny => ?_, fun err herr => ?_⟩
  · rw [hallow] at he
    exact serveGuarded_of_allow g st attached next h request he
  · -- a denial has a message, and the answer carries it
    have hsome : d.message?.isSome := by
      rw [Decision.message?_isSome]
      cases d <;> simp_all [Decision.isAllowed]
    obtain ⟨m, hm⟩ := Option.isSome_iff_exists.mp hsome
    rw [hd] at he
    exact ⟨m, hm, serveGuarded_of_deny g st attached next h request he hm⟩
  · rw [herr] at he
    exact serveGuarded_of_error g st attached next h request he

end WriteAccess
