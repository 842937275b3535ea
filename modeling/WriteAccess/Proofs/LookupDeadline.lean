import WriteAccess.Proofs.PriorityChain

/-!
# Lookups cancelled at the deadline

A lookup that has not finished when the client's deadline passes (it never finishes, or finishes
after the deadline) is dropped: the client keeps the state the call left behind, answers with a
timeout that carries the deadline exactly as it was set, and logs one warning.

The warning's `deadline_ms` is the deadline in whole milliseconds as a 64-bit count holds it, so
it wraps modulo `2^64` (`Duration.wholeMillis`). It is the whole number of milliseconds exactly
when the deadline is under `2^64` ms (`Duration.wholeMillis_eq_iff`); a longer deadline, which a
duration can hold, is logged wrong, while the timeout error still carries it unchanged.
-/

namespace WriteAccess

namespace Duration

/-- The logged count is the whole number of milliseconds exactly when that number fits in
64 bits. -/
theorem wholeMillis_eq_iff (d : Duration) :
    d.wholeMillis = d.nanos / 1000000 ↔ d.nanos < 2 ^ 64 * 1000000 := by
  rw [wholeMillis, Nat.pow_eq, Nat.mod_eq_iff_lt (by decide), Nat.div_lt_iff_lt_mul (by decide)]

end Duration

/-- A run has not finished within a deadline exactly when it never finishes or finishes after
it. -/
theorem LookupRun.finishedWithin_eq_false_iff (run : LookupRun) (d : Duration) :
    run.finishedWithin d = false ↔ ∀ t, run.elapsed = some t → d.nanos < t.nanos := by
  rcases run with ⟨events, _ | elapsed, result⟩ <;> simp [LookupRun.finishedWithin]

/-- A source that logs each call and never answers. -/
def AccessSource.stalled : AccessSource (List (String × String)) :=
  .fixed ⟨AccessList.empty, none, true, ⟨0⟩⟩

namespace RbacClient

/-- A late run is cut at the deadline: the source's next state, what the run logged by the
deadline followed by the one warning, and a timeout carrying the client's deadline. -/
theorem getAccess_of_late (c : RbacClient σ) {st : σ} {header : String}
    (hlate : (c.source.fetch st header c.application).2.finishedWithin c.deadline = false) :
    c.getAccess st header =
      ((c.source.fetch st header c.application).1,
        (c.source.fetch st header c.application).2.loggedBy c.deadline ++
          [cancelledEvent c.deadline],
        .error (.timeout c.deadline)) := by
  rcases hfetch : c.source.fetch st header c.application with ⟨next, run⟩
  rw [hfetch] at hlate
  simp only at hlate
  simp [getAccess_of_fetch c hfetch, hlate]

/-- For every deadline set on a client and every source, a lookup that has not finished when the
deadline passes is dropped: the client returns the state the call left, a timeout carrying the
deadline unchanged, and, after the events the source had logged by then, exactly one warning,
`rbac lookup cancelled at deadline`, whose `deadline_ms` is the deadline's whole milliseconds
modulo `2^64`. That field is the whole number of milliseconds exactly when the deadline is under
`2^64` ms. -/
theorem getAccess_cancels_late_lookup (c : RbacClient σ) (d : Duration) (st : σ)
    (header : String)
    (hlate : ∀ t, (c.source.fetch st header c.application).2.elapsed = some t →
      d.nanos < t.nanos) :
    (c.withDeadline d).getAccess st header =
      ((c.source.fetch st header c.application).1,
        (c.source.fetch st header c.application).2.loggedBy d ++
          [⟨.warn, "sources_authz::rbac::client", "rbac lookup cancelled at deadline",
            [("deadline_ms", .count (d.nanos / 1000000 % 2 ^ 64))]⟩],
        .error (.timeout d)) ∧
    (d.nanos / 1000000 % 2 ^ 64 = d.nanos / 1000000 ↔ d.nanos < 2 ^ 64 * 1000000) := by
  refine ⟨?_, d.wholeMillis_eq_iff⟩
  -- the client with the new deadline asks the same source for the same application
  have hrun := (LookupRun.finishedWithin_eq_false_iff _ d).2 hlate
  exact getAccess_of_late (c.withDeadline d) hrun

/-- The stalled lookup of the deadline test: it never answers, and the client gives up at
250 ms, logging 250. -/
theorem getAccess_cancels_stalled_lookup :
    (∀ t, (AccessSource.stalled.fetch [] "h1" "sources").2.elapsed = some t →
        (Duration.ofMillis 250).nanos < t.nanos) ∧
      ((RbacClient.new .stalled "sources").withDeadline (.ofMillis 250)).getAccess [] "h1" =
        ([("h1", "sources")],
          [⟨.warn, "sources_authz::rbac::client", "rbac lookup cancelled at deadline",
            [("deadline_ms", .count 250)]⟩],
          .error (.timeout (.ofMillis 250))) := by
  have hstalled : ∀ t, (AccessSource.stalled.fetch [] "h1" "sources").2.elapsed = some t →
      (Duration.ofMillis 250).nanos < t.nanos := by
    simp [AccessSource.stalled, AccessSource.fixed]
  exact ⟨hstalled, (getAccess_cancels_late_lookup (.new _ "sources") (.ofMillis 250) [] "h1"
    hstalled).1⟩

/-- A deadline of `2^64` ms, which a duration can hold, is logged as `0` ms: the one warning of a
stalled lookup does not carry the deadline's whole milliseconds. -/
theorem getAccess_wraps_long_deadline :
    ((RbacClient.new .stalled "sources").withDeadline (.ofMillis (2 ^ 64))).getAccess [] "h1" ≠
      ([("h1", "sources")],
        [⟨.warn, "sources_authz::rbac::client", "rbac lookup cancelled at deadline",
          [("deadline_ms", .count ((Duration.ofMillis (2 ^ 64)).nanos / 1000000))]⟩],
        .error (.timeout (.ofMillis (2 ^ 64)))) := by
  rw [getAccess_of_late _ rfl]
  simp [cancelledEvent, Event.of, Component.target, Duration.wholeMillis, Duration.ofMillis,
    withDeadline, new, AccessSource.stalled, AccessSource.fixed, LookupRun.loggedBy]

end RbacClient

end WriteAccess
