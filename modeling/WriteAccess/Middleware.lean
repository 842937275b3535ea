import WriteAccess.Gate

/-!
# Guarding a write endpoint

The gate in front of a handler. A request without a context is evaluated with the empty one.
An allowed request goes on to the handler; a denied one is answered `401` with its rejection
document; a failed evaluation is answered `500` with the internal error document, which hides
the cause, and the cause is logged with the request id.

`requireWriteAccess` gives the guard's verdict; `serveGuarded` runs a request through the guard
and the handler behind it. The handler keeps a state of its own, so that how often it ran shows.
-/

namespace WriteAccess

/-- What the guard does with a request. -/
inductive Verdict where
  | forward
  | respond (status : Nat) (body : String)
  deriving DecidableEq, Repr

/-- The event logged when an evaluation fails. -/
def failedEvent (e : AuthzError) (requestId : Option String) : Event :=
  Event.of .middleware .error "authorization check failed"
    [("error", .text e.message), ("request_id", .text (Text.quotedOption requestId))]

/-- Guards one request: the verdict, with the next state of the service and the events logged. -/
def requireWriteAccess (g : Gate σ) (st : σ) (ctx : Option RequestContext) :
    σ × List Event × Verdict :=
  let ctx := ctx.getD RequestContext.empty
  let (next, events, result) := g.evaluate st ctx
  match result with
  | .ok d =>
    match d.rejection? with
    | some doc => (next, events, .respond 401 doc.text)
    | none => (next, events, .forward)
  | .error e => (next, events ++ [failedEvent e ctx.requestId], .respond 500 ErrorDocument.internal.text)

/-- A response of the guarded endpoint: its status and its body. -/
structure Response where
  status : Nat
  body : String
  deriving DecidableEq, Repr

/-- The handler behind the guard: from a request and its own state, its next state and its
response. -/
structure Handler (ρ η : Type) where
  run : ρ → η → η × Response

/-- Serves a request through the guard in front of a handler. `attached` finds the context the
request carries, if any. An allowed request is handed on as it came and the handler's response is
returned; any other is answered by the guard, and the handler does not run. -/
def serveGuarded (g : Gate σ) (st : σ) (attached : ρ → Option RequestContext) (next : Handler ρ η)
    (h : η) (request : ρ) : σ × η × List Event × Response :=
  let (st', events, verdict) := requireWriteAccess g st (attached request)
  match verdict with
  | .forward =>
    let (h', response) := next.run request h
    (st', h', events, response)
  | .respond status body => (st', h, events, ⟨status, body⟩)

end WriteAccess
