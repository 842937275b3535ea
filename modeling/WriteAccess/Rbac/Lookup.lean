import WriteAccess.Access.List
import WriteAccess.Event
import WriteAccess.Failure
import WriteAccess.Text.Quoted

/-!
# Access lookups under a deadline

A source of access lists answers one lookup for an identity header and an application. A
source may keep state between lookups (a call log, a service's request counter), so it is a
function from a state to the next state and the run of the lookup: the events it logged, each
with the time into the lookup at which it was logged, how long it took (or that it never
finishes), and its list or its error.

`RbacClient` asks its source under a deadline: a run that takes longer than the deadline, or
never finishes, is cancelled, logged as cancelled, and reported as a timeout carrying the
deadline. A run that finishes exactly at the deadline still counts. Cancelling a run takes back
nothing it already logged: the events it logged up to the deadline stay, and the cancellation
follows them. `checkAccess` then asks whether the list allows writing, and logs the answer.
-/

namespace WriteAccess

/-- An event logged during a lookup, with the time into the lookup at which it was logged. -/
structure TimedEvent where
  time : Duration
  event : Event

/-- One run of an access lookup. -/
structure LookupRun where
  events : List TimedEvent
  elapsed : Option Duration
  result : Except RbacError AccessList

/-- The events a run has logged by a time into the lookup, in the order logged. -/
def LookupRun.loggedBy (run : LookupRun) (time : Duration) : List Event :=
  (run.events.filter fun e => e.time.nanos ≤ time.nanos).map TimedEvent.event

/-- A source of access lists whose lookups move a state `σ`: given the state, the identity
header and the application, the next state and the run. -/
structure AccessSource (σ : Type) where
  fetch : σ → String → String → σ × LookupRun

/-- A deadline-bounded client of an access source, asking for one application. -/
structure RbacClient (σ : Type) where
  source : AccessSource σ
  application : String
  deadline : Duration

namespace RbacClient

/-- The deadline of a lookup unless another is set: fifteen seconds. -/
def defaultDeadline : Duration := ⟨15 * 1000000000⟩

/-- A client of a source for an application, with the default deadline. -/
def new (source : AccessSource σ) (application : String) : RbacClient σ :=
  ⟨source, application, defaultDeadline⟩

/-- The client with another deadline. -/
def withDeadline (c : RbacClient σ) (deadline : Duration) : RbacClient σ := { c with deadline }

/-- How the client describes itself: its application, quoted, and its deadline. -/
def debugText (c : RbacClient σ) : String :=
  "RbacClient \x7b application: " ++ Text.quoted c.application ++ ", deadline: " ++
    c.deadline.text ++ ", .. \x7d"

/-- The event logged when a lookup is cancelled at the deadline. -/
def cancelledEvent (deadline : Duration) : Event :=
  Event.of .rbacClient .warn "rbac lookup cancelled at deadline"
    [("deadline_ms", .count deadline.wholeMillis)]

/-- Whether a run finished within the deadline. -/
def inTime (deadline : Duration) : Option Duration → Bool
  | some d => d.nanos ≤ deadline.nanos
  | none => false

/-- The access list of an identity header, or why there is none; with the next state of the
source and the events logged: all of the run's when it finished in time, and those it logged by
the deadline, then the cancellation, when it did not. -/
def getAccess (c : RbacClient σ) (st : σ) (header : String) :
    σ × List Event × Except RbacError AccessList :=
  let (next, run) := c.source.fetch st header c.application
  if inTime c.deadline run.elapsed then (next, run.events.map TimedEvent.event, run.result)
  else
    (next, run.loggedBy c.deadline ++ [cancelledEvent c.deadline], .error (.timeout c.deadline))

/-- The event logged when a list has been checked for the write permission. -/
def evaluatedEvent (acl : AccessList) (allowed : Bool) : Event :=
  Event.of .rbacClient .debug "rbac access list evaluated"
    [("grants", .count acl.size), ("allowed", .flag allowed),
      ("service", .text AccessList.required.service),
      ("resource_type", .text AccessList.required.resourceType),
      ("verb", .text AccessList.required.verb)]

/-- Whether an identity header may write, or why that is unknown; with the next state of the
source and the events logged. -/
def checkAccess (c : RbacClient σ) (st : σ) (header : String) :
    σ × List Event × Except RbacError Bool :=
  let (next, events, result) := c.getAccess st header
  match result with
  | .ok acl =>
    let allowed := acl.allowsWrite
    (next, events ++ [evaluatedEvent acl allowed], .ok allowed)
  | .error e => (next, events, .error e)

end RbacClient

/-! ## A fixed access source

A source that answers every lookup the same way: with a fixed list or a fixed error, after a
fixed delay, or never. Its state is the log of the calls it received, each as the identity
header and the application; a call is logged even when its answer never comes.
-/

/-- How a fixed source answers. -/
structure FixedAnswer where
  acl : AccessList
  error : Option RbacError
  hang : Bool
  delay : Duration

/-- The source that logs each call and answers as `a` says. -/
def AccessSource.fixed (a : FixedAnswer) : AccessSource (List (String × String)) :=
  ⟨fun calls header application =>
    (calls ++ [(header, application)],
      { events := []
        elapsed := if a.hang then none else some a.delay
        result :=
          match a.error with
          | some e => .error e
          | none => .ok a.acl })⟩

end WriteAccess
