import WriteAccess.Proofs.PriorityChain

/-!
# What one evaluation logs

The events of one evaluation, in order: the skip when bypass is on; for a user lookup, the
source's own events and then the verdict on its list (nothing more when it failed, and the
cancellation alone when it passed the deadline); and last exactly one audit event. The audit
event names the credential kind of the first signal present, the outcome and the decision's label
(`internal_error` for a failure), and the request id and the tenant of the context's identity, the
tenant even when the identity did not decide.

Over HTTP the source's own events are the warnings of the pages it read: one for each entry whose
permission does not parse, naming the permission, page after page and entry after entry, the
pages read before a failure included; and the list it gives is the grants of those pages, in the
same order.
-/

namespace WriteAccess

open Json

/-! ## The audit event -/

/-- The credential kind an audit event names for a rung: the first signal present. -/
def Rung.credentialName : Rung σ → String
  | .bypass => "bypass"
  | .presharedKey _ => "psk"
  | .systemIdentity => "system_identity"
  | .missingHeader | .unconfigured | .lookup _ _ => "user_identity"
  | .anonymous => "anonymous"

/-- The audit event of an evaluation of `x` that reached `result` through rung `r`: at INFO when
allowed and at WARN otherwise, with the request id and the identity's tenant in diagnostic form. -/
def auditLine (r : Rung σ) (x : RequestContext) (result : Except AuthzError Decision) : Event :=
  let (level, outcome, decision) : Level × String × String :=
    match result with
    | .ok .allow => (.info, "allowed", "allow")
    | .ok .denyUnauthenticated => (.warn, "denied", "deny_unauthenticated")
    | .ok .denyBadPsk => (.warn, "denied", "deny_bad_psk")
    | .ok .denyBadRbac => (.warn, "denied", "deny_bad_rbac")
    | .error _ => (.warn, "error", "internal_error")
  ⟨level, "sources_authz::audit", "write access decision",
    [("request_id", .text (Text.quotedOption x.requestId)),
      ("org_id", .text (Text.quotedOption (x.identity.bind Identity.orgId))),
      ("credential", .text r.credentialName), ("outcome", .text outcome),
      ("decision", .text decision)]⟩

/-- The audit record the gate builds from a rung's kind and a result is logged as the audit line:
the credential's name and the second match on the result agree on every path. -/
theorem auditOf_toEvent (r : Rung σ) (x : RequestContext) (result : Except AuthzError Decision) :
    (Gate.auditOf r.kind x result).toEvent = auditLine r x result := by
  cases r <;> rcases result with _ | (_ | _ | _ | _) <;> rfl

/-! ## The pages of an HTTP lookup -/

/-- The entries of a decoded page. -/
def AccessPage.entries (page : Value) : List Value :=
  AccessPage.items ((page.get? "data").getD (.array []))

/-- The warning for a decoded entry whose permission does not parse; the error names the
permission text. -/
def AccessPage.entryWarning (entry : Value) : Option Event :=
  let text := ((entry.get? "permission").bind Value.asString?).getD ""
  match Permission.parse? text with
  | some _ => none
  | none =>
    some ⟨.warn, "sources_authz::rbac::acl", "skipping unparsable rbac grant",
      [("error", .text ("invalid permission '" ++ text ++ "'"))]⟩

/-- An entry is warned about exactly when it gives no grant, with the error it gives instead. -/
theorem AccessPage.entryWarning_eq (entry : Value) :
    entryWarning entry =
      match grantOf entry with
      | .ok _ => none
      | .error e => some (skippedEvent e) := by
  unfold grantOf entryWarning
  generalize ((entry.get? "permission").bind Value.asString?).getD "" = text
  cases hparse : Permission.parse? text
  · simp only [Permission.read, hparse]
    rfl
  · simp only [Permission.read, hparse]

/-- Splitting a page's entries into grants and warnings keeps both in entry order. -/
theorem AccessPage.grants_eq (page : Value) :
    AccessPage.grants page =
      ((entries page).filterMap fun entry => (grantOf entry).toOption,
        (entries page).filterMap entryWarning) := by
  unfold grants
  rw [← entries]
  induction entries page with
  | nil => rfl
  | cons entry rest ih =>
    simp only [List.map_cons, List.foldr_cons, ih, List.filterMap_cons, entryWarning_eq]
    cases grantOf entry <;> rfl

/-! ## Pages read in time -/

/-- A page a lookup read: the time into the lookup at which its exchange ended, and its decoded
body. -/
structure ReadPage where
  time : Duration
  body : Value

namespace ReadPage

/-- The warnings a read page logs: one for each entry whose permission does not parse, in entry
order. -/
def warnings (p : ReadPage) : List Event :=
  (AccessPage.entries p.body).filterMap AccessPage.entryWarning

/-- The grants a read page gives, in entry order. -/
def grants (p : ReadPage) : List Grant :=
  (AccessPage.entries p.body).filterMap fun entry => (AccessPage.grantOf entry).toOption

/-- The warnings of a read page, each stamped with the time the page was read. -/
def timedWarnings (p : ReadPage) : List TimedEvent :=
  p.warnings.map (TimedEvent.mk p.time)

/-- A decoded page splits into the grants and the warnings it gives when read, at any time. -/
theorem grants_body (time : Duration) (page : Value) :
    AccessPage.grants page = ((⟨time, page⟩ : ReadPage).grants, (⟨time, page⟩ : ReadPage).warnings) :=
  AccessPage.grants_eq page

theorem events_timedWarnings (pages : List ReadPage) :
    (pages.flatMap timedWarnings).map TimedEvent.event = pages.flatMap warnings := by
  simp [timedWarnings, List.map_flatMap, Function.comp_def]

/-- Of the warnings of pages, those logged by a time are the warnings of the pages read by then:
a page's warnings all carry its time, so they are kept or dropped together. -/
theorem filter_timedWarnings (pages : List ReadPage) (time : Duration) :
    ((pages.flatMap timedWarnings).filter fun e => e.time.nanos ≤ time.nanos).map
        TimedEvent.event =
      (pages.filter fun p => p.time.nanos ≤ time.nanos).flatMap warnings := by
  induction pages with
  | nil => rfl
  | cons p rest ih =>
    by_cases hp : p.time.nanos ≤ time.nanos
    · simp [timedWarnings, List.filter_map, Function.comp_def, hp, ih]
    · simp [timedWarnings, List.filter_map, Function.comp_def, hp, ih]

end ReadPage

namespace HttpSource

/-- The URL of the page after a decoded page: its link, when there is one that is not empty and
that resolves against the access URL. -/
def linkAfter (s : HttpSource) (page : Value) : Option Url :=
  match AccessPage.next page with
  | some link => if link.isEmpty then none else (s.accessUrl.join link).toOption
  | none => none

/-- The pages a lookup of at most `fuel` pages reads from `url` on, starting `clock` into the
lookup: the decoded bodies of its successive success answers, each at the end of its exchange, up
to the last page, the first failure, or the end of the fuel. -/
def pagesRead (s : HttpSource) (t : Http.Transport τ) (header : String) :
    Nat → τ → Duration → Url → List ReadPage
  | 0, _, _, _ => []
  | fuel + 1, st, clock, url =>
    match fetchPage t st url header with
    | (_, _, .error _) => []
    | (next, took, .ok page) =>
      ⟨clock + took, page⟩ :: match s.linkAfter page with
        | some u => pagesRead s t header fuel next (clock + took) u
        | none => []

section Step

variable (s : HttpSource) (t : Http.Transport τ) (header : String) (fuel : Nat) {st next : τ}
  (clock : Duration) {took : Duration} {url : Url} (acl : AccessList) (events : List TimedEvent)
  {page : Value}

/-- A page read with a link to follow: the run goes on from the link, at the end of the page's
exchange, with the page's grants and warnings added. -/
theorem fetchPages_follow (hfetch : fetchPage t st url header = (next, took, .ok page)) {u : Url}
    (hlink : s.linkAfter page = some u) :
    s.fetchPages t header (fuel + 1) st clock url acl events =
      s.fetchPages t header fuel next (clock + took) u
        (acl.append (ReadPage.grants ⟨clock + took, page⟩))
        (events ++ ReadPage.timedWarnings ⟨clock + took, page⟩) := by
  unfold linkAfter at hlink
  rcases hnext : AccessPage.next page with _ | link
  · simp [hnext] at hlink
  rw [hnext] at hlink
  by_cases hempty : link.isEmpty
  · simp [hempty] at hlink
  rcases hjoin : s.accessUrl.join link with e | u'
  · simp [hempty, hjoin, Except.toOption] at hlink
  · simp only [hempty, hjoin, Except.toOption, Bool.false_eq_true, if_false,
      Option.some.injEq] at hlink
    subst hlink
    simp [fetchPages, hfetch, ReadPage.grants_body (clock + took), hnext, hempty, hjoin,
      ReadPage.timedWarnings]

/-- A page read with no link to follow: the run ends at the end of the page's exchange, with the
page's warnings added, and the list it gives, when it gives one, has the page's grants added. -/
theorem fetchPages_last (hfetch : fetchPage t st url header = (next, took, .ok page))
    (hlink : s.linkAfter page = none) :
    ∃ result, s.fetchPages t header (fuel + 1) st clock url acl events =
        (next, ⟨events ++ ReadPage.timedWarnings ⟨clock + took, page⟩, some (clock + took),
          result⟩) ∧
      ∀ acl', result = .ok acl' → acl' = acl.append (ReadPage.grants ⟨clock + took, page⟩) := by
  simp only [fetchPages, hfetch, ReadPage.grants_body (clock + took), ReadPage.timedWarnings]
  unfold linkAfter at hlink
  rcases hnext : AccessPage.next page with _ | link
  · exact ⟨_, rfl, fun _ h => (Except.ok.inj h).symm⟩
  rw [hnext] at hlink
  by_cases hempty : link.isEmpty
  · exact ⟨_, by simp [hempty], fun _ h => (Except.ok.inj h).symm⟩
  rcases hjoin : s.accessUrl.join link with e | u
  · exact ⟨.error (.malformedResponse e.message), by simp [hempty, hjoin], fun _ h => by cases h⟩
  · simp [hempty, hjoin, Except.toOption] at hlink

end Step

/-- Following pages adds the warnings of every page read to the events, each at the time its page
was read, and, when the lookup gives a list, the grants of every page read to the list. -/
theorem fetchPages_pagesRead (s : HttpSource) (t : Http.Transport τ) (header : String) :
    ∀ (fuel : Nat) (st : τ) (clock : Duration) (url : Url) (acl : AccessList)
      (events : List TimedEvent),
      let run := (s.fetchPages t header fuel st clock url acl events).2
      let pages := s.pagesRead t header fuel st clock url
      run.events = events ++ pages.flatMap ReadPage.timedWarnings ∧
        ∀ acl', run.result = .ok acl' → acl'.grants = acl.grants ++ pages.flatMap ReadPage.grants := by
  intro fuel
  induction fuel with
  | zero =>
    intro st clock url acl events
    simp [fetchPages, pagesRead]
  | succ fuel ih =>
    intro st clock url acl events
    rcases hfetch : fetchPage t st url header with ⟨next, took, e | page⟩
    · simp [fetchPages, pagesRead, hfetch]
    -- a page read: its warnings and grants are added whatever comes after it
    rcases hlink : s.linkAfter page with _ | u
    · obtain ⟨result, hrun, hresult⟩ := s.fetchPages_last t header fuel clock acl events hfetch hlink
      refine ⟨by simp [hrun, pagesRead, hfetch, hlink], fun acl' hacl' => ?_⟩
      rw [hrun] at hacl'
      simp [hresult acl' hacl', pagesRead, hfetch, hlink, AccessList.append]
    · obtain ⟨hevents, hgrants⟩ := ih next (clock + took) u
        (acl.append (ReadPage.grants ⟨clock + took, page⟩))
        (events ++ ReadPage.timedWarnings ⟨clock + took, page⟩)
      rw [s.fetchPages_follow t header fuel clock acl events hfetch hlink]
      refine ⟨by simp [hevents, pagesRead, hfetch, hlink], fun acl' hacl' => ?_⟩
      simp [hgrants acl' hacl', pagesRead, hfetch, hlink, AccessList.append]

/-- A lookup over HTTP always ends, no earlier than it starts and than any page it read. -/
theorem fetchPages_finish (s : HttpSource) (t : Http.Transport τ) (header : String) :
    ∀ (fuel : Nat) (st : τ) (clock : Duration) (url : Url) (acl : AccessList)
      (events : List TimedEvent),
      ∃ finish, (s.fetchPages t header fuel st clock url acl events).2.elapsed = some finish ∧
        clock.nanos ≤ finish.nanos ∧
        ∀ p ∈ s.pagesRead t header fuel st clock url, p.time.nanos ≤ finish.nanos := by
  intro fuel
  induction fuel with
  | zero =>
    intro st clock url acl events
    exact ⟨clock, rfl, le_rfl, by simp [pagesRead]⟩
  | succ fuel ih =>
    intro st clock url acl events
    rcases hfetch : fetchPage t st url header with ⟨next, took, e | page⟩
    · exact ⟨clock + took, by simp [fetchPages, hfetch], by simp, by simp [pagesRead, hfetch]⟩
    -- the page is read when its exchange ends; a run that goes on ends after the next pages
    have hread : clock.nanos ≤ (clock + took).nanos := by simp
    rcases hlink : s.linkAfter page with _ | u
    · obtain ⟨result, hrun, -⟩ := s.fetchPages_last t header fuel clock acl events hfetch hlink
      exact ⟨clock + took, by rw [hrun], hread, by simp [pagesRead, hfetch, hlink]⟩
    · obtain ⟨finish, helapsed, hstart, hpages⟩ := ih next (clock + took) u
        (acl.append (ReadPage.grants ⟨clock + took, page⟩))
        (events ++ ReadPage.timedWarnings ⟨clock + took, page⟩)
      rw [s.fetchPages_follow t header fuel clock acl events hfetch hlink]
      refine ⟨finish, helapsed, by omega, ?_⟩
      simp only [pagesRead, hfetch, hlink, List.mem_cons, forall_eq_or_imp]
      exact ⟨hstart, hpages⟩

/-- Under a deadline, what stays of a lookup's events is the warnings of the pages read by the
deadline, page after page: every page when the lookup finished in time, since none is read after
the lookup ends. -/
theorem seenBy_source (s : HttpSource) (t : Http.Transport τ) (st : τ)
    (header application : String) (deadline : Duration) :
    ((s.source t).fetch st header application).2.seenBy deadline =
      ((s.pagesRead t header maxPages st ⟨0⟩ (s.firstPageUrl application)).filter
        fun p => p.time.nanos ≤ deadline.nanos).flatMap ReadPage.warnings := by
  obtain ⟨hevents, -⟩ := s.fetchPages_pagesRead t header maxPages st ⟨0⟩
    (s.firstPageUrl application) AccessList.empty []
  obtain ⟨finish, helapsed, -, hpages⟩ := s.fetchPages_finish t header maxPages st ⟨0⟩
    (s.firstPageUrl application) AccessList.empty []
  simp only [source, LookupRun.seenBy, LookupRun.finishedWithin, LookupRun.loggedBy, helapsed,
    hevents, List.nil_append, Option.any_some] at hpages ⊢
  by_cases hin : finish.nanos ≤ deadline.nanos
  · -- in time: every page was read by the end of the lookup, so by the deadline
    have hall : ∀ p ∈ s.pagesRead t header maxPages st ⟨0⟩ (s.firstPageUrl application),
        decide (p.time.nanos ≤ deadline.nanos) = true :=
      fun p hp => decide_eq_true ((hpages p hp).trans hin)
    simp [hin, ReadPage.events_timedWarnings, List.filter_eq_self.2 hall]
  · simp [hin, ReadPage.filter_timedWarnings]

end HttpSource

/-! ## The whole sequence -/

/-- The events of one evaluation are, in order, what the deciding rung logs (the skip under
bypass; for a user lookup the source's events that stay, then the client's own) and then exactly
one audit event. A lookup over HTTP logs, page after page and entry after entry, a warning for each
entry whose permission does not parse, of every page read by the deadline, the pages read before a
failure included; then the verdict on the list when the lookup gave one in time, nothing when it
failed in time, and the cancellation when it was late. The list it gives holds the grants of the
pages read, in the same order. -/
theorem evaluate_event_sequence :
    (∀ {σ : Type} (g : Gate σ) (st : σ) (x : RequestContext),
      (g.evaluate st x).2.1 =
        (g.rung x).log st ++ [auditLine (g.rung x) x ((g.rung x).answer st).2]) ∧
    (∀ {τ : Type} (s : HttpSource) (t : Http.Transport τ) (application : String)
        (deadline : Duration) (st : τ) (header : String),
      let pages := s.pagesRead t header HttpSource.maxPages st ⟨0⟩ (s.firstPageUrl application)
      let run := ((s.source t).fetch st header application).2
      (Rung.lookup ⟨s.source t, application, deadline⟩ header).log st =
          (pages.filter fun p => p.time.nanos ≤ deadline.nanos).flatMap ReadPage.warnings ++
            clientLog deadline run ∧
        ∀ acl, run.result = .ok acl → acl.grants = pages.flatMap ReadPage.grants) := by
  refine ⟨fun g st x => ?_, fun s t application deadline st header => ?_⟩
  · rw [Gate.evaluate_eq_rung, auditOf_toEvent]
  · obtain ⟨-, hgrants⟩ := s.fetchPages_pagesRead t header HttpSource.maxPages st ⟨0⟩
      (s.firstPageUrl application) AccessList.empty []
    -- the rung's log is the lookup log of the one run under the client's deadline
    refine ⟨by rw [Rung.log, lookupLog, s.seenBy_source], fun acl hacl => ?_⟩
    simpa [AccessList.empty] using hgrants acl hacl

end WriteAccess
