import Mathlib
import WriteAccess.Rbac.Http

/-!
# Following the pages of the access listing

A lookup over HTTP reads the access listing page by page. Answer it by a script, the service
giving `R i` to the lookup's request number `i` whatever the request asks for, and the walk the
lookup makes is described rule by rule by `HttpSource.Walk`, one rule for each way a page ends the
walk or leads on:

* the request cannot be sent (its URL or the identity header fails the checks made before
  sending): a transport failure, and nothing reaches the service;
* the answer is not a success, or its body is not an access page: that failure;
* the page has no next link, or an empty one: the grants of every page read, in page order;
* the next link does not resolve: a malformed answer carrying the URL error;
* the link resolves before the 100th page: the walk goes on at that URL;
* the link resolves on the 100th page: the walk gives up, after exactly 100 requests.

A link is resolved against the fixed access URL, never against the page it came from, and no list
is given unless the walk reaches a last page. Main statement: the lookup makes exactly the walk,
the service receiving its requests in order and each with the identity header, and never more
than 100 of them (`lookup_walks_script`).
-/

namespace WriteAccess

namespace Http

/-- A service that answers request number `i` with `R i` at once, whatever it asks for, and
keeps each request it receives: the URL and the identity header. -/
def Transport.replay (R : Nat → Response) : Transport (List (Url × String)) :=
  ⟨fun received url header => (received ++ [(url, header)], ⟨some (R received.length), ⟨0⟩⟩)⟩

/-- A request that passes the checks is sent to its URL without credentials. -/
theorem prepare_eq_ok {url sent : Url} {header : String} (h : prepare url header = .ok sent) :
    sent = withoutCredentials url := by
  unfold prepare at h
  split at h
  · cases h
  · dsimp only at h
    split at h
    · cases h
    · split at h
      · cases h
      · split at h
        · cases h
        · exact (Except.ok.inj h).symm

end Http

namespace HttpSource

/-- One page of a lookup answered by a script: a refused request leaves the service as it was;
any other is received, and its answer read. -/
theorem fetchPage_replay (R : Nat → Http.Response) (received : List (Url × String)) (url : Url)
    (header : String) :
    fetchPage (Http.Transport.replay R) received url header =
      match Http.prepare url header with
      | .error e => (received, ⟨0⟩, .error (.transport e.message))
      | .ok sent => (received ++ [(sent, header)], ⟨0⟩, readAnswer (R received.length)) := by
  unfold fetchPage Http.get
  cases Http.prepare url header <;> rfl

/-- The walk of a lookup over the pages of a script `R`, as its rules describe it: from page `i`
at `url` it requests `requested`, in order, and ends with `result`, the grants of the pages read
from `i` on or the failure. -/
inductive Walk (s : HttpSource) (R : Nat → Http.Response) (header : String) :
    Nat → Url → List Url → Except RbacError (List Grant) → Prop
  /-- The request is refused before it is sent. -/
  | refused {i : Nat} {url : Url} {e : Http.SendError} :
      Http.prepare url header = .error e →
      Walk s R header i url [] (.error (.transport e.message))
  /-- The answer is not a success, or not an access page. -/
  | unread {i : Nat} {url : Url} {e : RbacError} :
      Http.prepare url header = .ok (Http.withoutCredentials url) →
      readAnswer (R i) = .error e →
      Walk s R header i url [url] (.error e)
  /-- The last page: no next link, or an empty one. -/
  | last {i : Nat} {url : Url} {page : Json.Value} :
      Http.prepare url header = .ok (Http.withoutCredentials url) →
      readAnswer (R i) = .ok page →
      (∀ link, AccessPage.next page = some link → link = "") →
      Walk s R header i url [url] (.ok (AccessPage.grants page).1)
  /-- A next link that does not resolve against the access URL. -/
  | badLink {i : Nat} {url : Url} {page : Json.Value} {link : String} {e : Url.ParseError} :
      Http.prepare url header = .ok (Http.withoutCredentials url) →
      readAnswer (R i) = .ok page →
      AccessPage.next page = some link → link ≠ "" →
      s.accessUrl.join link = .error e →
      Walk s R header i url [url] (.error (.malformedResponse e.message))
  /-- A next link that resolves, before the 100th page: the walk goes on there. -/
  | follow {i : Nat} {url : Url} {page : Json.Value} {link : String} {next : Url}
      {rest : List Url} {result : Except RbacError (List Grant)} :
      Http.prepare url header = .ok (Http.withoutCredentials url) →
      readAnswer (R i) = .ok page →
      AccessPage.next page = some link → link ≠ "" →
      s.accessUrl.join link = .ok next →
      i + 1 < 100 →
      Walk s R header (i + 1) next rest result →
      Walk s R header i url (url :: rest) (result.map ((AccessPage.grants page).1 ++ ·))
  /-- A next link that resolves on the 100th page: the walk gives up. -/
  | giveUp {i : Nat} {url : Url} {page : Json.Value} {link : String} {next : Url} :
      Http.prepare url header = .ok (Http.withoutCredentials url) →
      readAnswer (R i) = .ok page →
      AccessPage.next page = some link → link ≠ "" →
      s.accessUrl.join link = .ok next →
      i + 1 = 100 →
      Walk s R header i url [url] (.error (.malformedResponse "pagination exceeded 100 pages"))

variable {s : HttpSource} {R : Nat → Http.Response} {header : String}

/-- A walk is determined by where it starts: at each page exactly one rule applies. -/
theorem Walk.unique {i : Nat} {url : Url} {requested₁ requested₂ : List Url}
    {result₁ result₂ : Except RbacError (List Grant)}
    (h₁ : s.Walk R header i url requested₁ result₁) (h₂ : s.Walk R header i url requested₂ result₂) :
    requested₁ = requested₂ ∧ result₁ = result₂ := by
  induction h₁ generalizing requested₂ result₂ with
  | refused => cases h₂ <;> simp_all
  | unread => cases h₂ <;> simp_all
  | last => cases h₂ <;> simp_all
  | badLink => cases h₂ <;> simp_all
  | follow hprep hread hnext hlink hjoin hlt hwalk ih =>
    cases h₂ with
    | follow hprep' hread' hnext' hlink' hjoin' hlt' hwalk' =>
      -- the same answer gives the same page, link and next URL, so the same rest of the walk
      simp only [hread, Except.ok.injEq] at hread'
      subst hread'
      simp only [hnext, Option.some.injEq] at hnext'
      subst hnext'
      simp only [hjoin, Except.ok.injEq] at hjoin'
      subst hjoin'
      obtain ⟨rfl, rfl⟩ := ih hwalk'
      exact ⟨rfl, rfl⟩
    | _ => simp_all
  | giveUp => cases h₂ <;> simp_all

/-- A walk from a page below the 100th requests no page beyond the 100th. -/
theorem Walk.length_le {i : Nat} {url : Url} {requested : List Url}
    {result : Except RbacError (List Grant)} (h : s.Walk R header i url requested result)
    (hi : i < 100) : i + requested.length ≤ 100 := by
  induction h with
  | refused => simp; omega
  | unread | last | badLink | giveUp => simp; omega
  | follow _ _ _ _ _ hlt _ ih =>
    have := ih hlt
    simp only [List.length_cons]
    omega

/-- Following pages from request number `received.length`, with the fuel that is left for the
pages up to the 100th, is the walk from there: the service receives the walk's requests after
those it had, and the list is the walk's grants after those collected. -/
theorem fetchPages_walk (s : HttpSource) (R : Nat → Http.Response) (header : String) :
    ∀ (fuel : Nat) (received : List (Url × String)) (clock : Duration) (url : Url)
      (acl : AccessList) (events : List TimedEvent), received.length + fuel = 100 → 0 < fuel →
      ∃ requested result, s.Walk R header received.length url requested result ∧
        (s.fetchPages (Http.Transport.replay R) header fuel received clock url acl events).1 =
          received ++ requested.map (fun u => (Http.withoutCredentials u, header)) ∧
        (s.fetchPages (Http.Transport.replay R) header fuel received clock url acl
          events).2.result = result.map acl.append := by
  intro fuel
  induction fuel with
  | zero => intros; omega
  | succ fuel ih =>
    intro received clock url acl events hfuel _
    simp only [fetchPages, fetchPage_replay]
    cases hprep : Http.prepare url header with
    | error e => exact ⟨[], _, .refused hprep, by simp, rfl⟩
    | ok sent =>
      obtain rfl := Http.prepare_eq_ok hprep
      cases hread : readAnswer (R received.length) with
      | error e => exact ⟨[url], _, .unread hprep hread, by simp, rfl⟩
      | ok page =>
        cases hnext : AccessPage.next page with
        | none =>
          exact ⟨[url], _, .last hprep hread (by simp [hnext]), by simp [hnext],
            by simp [hnext, AccessList.append, Except.map]⟩
        | some link =>
          by_cases hempty : link.isEmpty
          · have hlink : link = "" := String.isEmpty_iff.1 hempty
            exact ⟨[url], _, .last hprep hread (by simp [hnext, hlink]), by simp [hnext, hempty],
              by simp [hnext, hempty, AccessList.append, Except.map]⟩
          · have hlink : link ≠ "" := fun h => hempty (String.isEmpty_iff.2 h)
            cases hjoin : s.accessUrl.join link with
            | error e =>
              exact ⟨[url], _, .badLink hprep hread hnext hlink hjoin, by simp [hnext, hempty, hjoin],
                by simp [hnext, hempty, hjoin, Except.map]⟩
            | ok next =>
              -- the walk goes on at `next`, unless this was the 100th page
              cases fuel with
              | zero =>
                refine ⟨[url], _, .giveUp hprep hread hnext hlink hjoin (by simpa using hfuel),
                  by simp [hnext, hempty, hjoin, fetchPages], ?_⟩
                have hmessage : "pagination exceeded " ++ maxPages.repr ++ " pages" =
                    "pagination exceeded 100 pages" := by decide
                simp [hnext, hempty, hjoin, fetchPages, hmessage, Except.map]
              | succ fuel =>
                obtain ⟨rest, result, hwalk, hsent, hresult⟩ :=
                  ih (received ++ [(Http.withoutCredentials url, header)]) (clock + ⟨0⟩) next
                    (acl.append (AccessPage.grants page).1)
                    (events ++ (AccessPage.grants page).2.map (TimedEvent.mk (clock + ⟨0⟩)))
                    (by simp; omega) (by omega)
                simp only [List.length_append, List.length_singleton] at hwalk
                refine ⟨url :: rest, _, .follow hprep hread hnext hlink hjoin (by omega) hwalk,
                  by simp [hnext, hempty, hjoin, hsent], ?_⟩
                simp only [hnext, hempty, hjoin, Bool.false_eq_true, if_false, hresult]
                cases result <;> simp [AccessList.append, Except.map]

/-- A lookup answered by a script makes the walk its rules describe from the first page, and
every such walk tells what the lookup does: the service receives the walk's requests, in order,
each with the identity header, never more than 100 of them, and the lookup gives the walk's grants
or its failure. -/
theorem lookup_walks_script (s : HttpSource) (R : Nat → Http.Response)
    (header application : String) :
    let lookup := (s.source (Http.Transport.replay R)).fetch [] header application
    (∃ requested, s.Walk R header 0 (s.firstPageUrl application) requested
        (lookup.2.result.map AccessList.grants) ∧
      lookup.1 = requested.map (fun u => (Http.withoutCredentials u, header))) ∧
    ∀ requested result, s.Walk R header 0 (s.firstPageUrl application) requested result →
      lookup.1 = requested.map (fun u => (Http.withoutCredentials u, header)) ∧
        lookup.2.result.map AccessList.grants = result ∧ requested.length ≤ 100 := by
  intro lookup
  obtain ⟨requested, result, hwalk, hsent, hresult⟩ :=
    fetchPages_walk s R header maxPages [] ⟨0⟩ (s.firstPageUrl application) AccessList.empty []
      (by decide) (by decide)
  -- the lookup is the run of the pages from the first one, with nothing collected yet
  have hlog : lookup.1 = requested.map (fun u => (Http.withoutCredentials u, header)) := by
    simpa [lookup, source] using hsent
  have hgrants : lookup.2.result.map AccessList.grants = result := by
    simp only [lookup, source, hresult]
    cases result <;> simp [Except.map, AccessList.empty, AccessList.append]
  refine ⟨⟨requested, hgrants ▸ hwalk, hlog⟩, fun requested' result' hwalk' => ?_⟩
  obtain ⟨rfl, rfl⟩ := Walk.unique hwalk hwalk'
  exact ⟨hlog, hgrants, by simpa using hwalk.length_le (by decide)⟩

/-- An identity header with a line break fails the checks made before sending: the lookup sends
no request at all and fails with a transport error, though the service would have answered its
first request with a 403. -/
theorem lookup_refuses_header_with_line_break :
    let s : HttpSource :=
      ⟨⟨"http", some ⟨"", "", .domain "rbac.test", none⟩, .segments ["access", ""], none, none⟩⟩
    let lookup :=
      (s.source (Http.Transport.replay fun _ => ⟨403, ByteArray.empty⟩)).fetch [] "a\nb" "sources"
    lookup.1 = [] ∧ lookup.2.result = .error (.transport "builder error") := by
  intro s lookup
  have hheader : Http.validHeaderValue "a\nb" = false := by decide +kernel
  have hprepare : ∀ url : Url, url.hasHost = true →
      Http.prepare url "a\nb" = .error (.builder none) := by
    intro url hurl
    simp [Http.prepare, hurl, hheader]
  have hfirst : (s.firstPageUrl "sources").hasHost = true := by
    simp [s, firstPageUrl, Url.appendQueryPairs, Url.hasHost]
  -- the first request is refused, so the first page is also the last step of the run
  have hrun : s.fetchPages (Http.Transport.replay fun _ => ⟨403, ByteArray.empty⟩) "a\nb"
      maxPages [] ⟨0⟩ (s.firstPageUrl "sources") AccessList.empty [] =
        ([], ⟨[], some (⟨0⟩ + ⟨0⟩), .error (.transport "builder error")⟩) := by
    rw [show maxPages = 99 + 1 from rfl, fetchPages, fetchPage_replay, hprepare _ hfirst]
    rfl
  simp [lookup, source, hrun]

end HttpSource

end WriteAccess
