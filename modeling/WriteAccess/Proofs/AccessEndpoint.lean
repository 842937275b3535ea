import WriteAccess.Proofs.FormQuery
import WriteAccess.Proofs.Pagination

/-!
# The access endpoint of the service

The access listing of the service is found from its base URL by text: the base is written out,
its trailing slashes are cut off, `/access/` is added, and the result is parsed again.

For a base parsed under `http` or `https`, with no query or fragment, this is an edit of the
path: the trailing slashes of the text are the separators before the trailing empty segments,
so cutting them drops those segments (`rdropWhile_slash_segments`), and the text with
`/access/` added is a URL of the kind that reads back as written (`parse_text_of_written`), its
host read again from its text (`ofBase_of_parsed`). The access URL therefore keeps the base's
host exactly when that host is read back as itself (`Host.Rereads`). Every host the parser gives
other than a domain with a label of the form `xn--` is (`Host.parseSpecial_text`): IPv4 and
IPv6 addresses and plain domain names. A label in Punycode form is read again through the
Punycode decoder, which refuses a label longer than it takes, so such a base may have no access
URL at all.

A lookup then asks first for the access URL with two form-encoded pairs as its query, the
application and the page size, and the service decodes them back to the pairs
(`formPairs_intercalate`). With a query in the base, the added text lands in the query instead
(`ofBase_query_swallows_access`).

Main statement: `ofBase_access_endpoint`.
-/

namespace WriteAccess.Url

/-! ## Trailing slashes -/

/-- The written segments of a path, cut in two. -/
theorem Path.text_segments_append (items more : List String) :
    (Path.segments (items ++ more)).text.toList =
      (Path.segments items).text.toList ++ (Path.segments more).text.toList := by
  simp [Path.text]

/-- The written segments of a path, with one more segment at the end. -/
theorem Path.text_segments_concat (items : List String) (s : String) :
    (Path.segments (items ++ [s])).text.toList =
      (Path.segments items).text.toList ++ '/' :: s.toList := by
  simp [Path.text]

/-- Trailing slashes cut off a text that ends in written segments take off the trailing empty
segments and nothing else, when the text before the segments does not end in a slash and no
segment holds one. -/
theorem rdropWhile_slash_segments {pre : List Char} (hpre : ∀ h : pre ≠ [], pre.getLast h ≠ '/')
    {items : List String} (hitems : ∀ s ∈ items, '/' ∉ s.toList) :
    (pre ++ (Path.segments items).text.toList).rdropWhile (· = '/') =
      pre ++ (Path.segments (items.rdropWhile (· = ""))).text.toList := by
  induction items using List.reverseRecOn with
  | nil =>
    simp only [List.rdropWhile_nil, Path.text, List.map_nil, String.join_nil,
      String.toList_empty, List.append_nil]
    exact List.rdropWhile_eq_self_iff.2 fun h => by simpa using hpre h
  | append_singleton init s ih =>
    have hinit := ih fun t ht => hitems t (List.mem_append_left _ ht)
    rw [Path.text_segments_concat, ← List.append_assoc]
    -- an empty last segment leaves one slash to cut and is dropped; any other ends in a
    -- character that stays
    rcases List.eq_nil_or_concat s.toList with hs | ⟨cs, c, hs⟩
    · have hempty : s = "" := String.toList_inj.1 (by simpa using hs)
      subst hempty
      have hcut : ((pre ++ (Path.segments init).text.toList) ++ ['/']).rdropWhile (· = '/') =
          (pre ++ (Path.segments init).text.toList).rdropWhile (· = '/') :=
        List.rdropWhile_concat_pos _ _ _ (by decide)
      have hdrop : (init ++ [""]).rdropWhile (· = "") = init.rdropWhile (· = "") :=
        List.rdropWhile_concat_pos _ _ _ (by decide)
      rw [hs, hcut, hdrop, hinit]
    · rw [List.concat_eq_append] at hs
      have hc : c ≠ '/' := fun h => hitems s (by simp) (by simp [hs, h])
      have hne : s ≠ "" := by
        rintro rfl
        simp at hs
      have hcut : ((pre ++ (Path.segments init).text.toList) ++ '/' :: s.toList).rdropWhile
          (· = '/') = (pre ++ (Path.segments init).text.toList) ++ '/' :: s.toList := by
        rw [hs, show (pre ++ (Path.segments init).text.toList) ++ '/' :: (cs ++ [c]) =
          ((pre ++ (Path.segments init).text.toList) ++ '/' :: cs) ++ [c] by simp]
        exact List.rdropWhile_concat_neg _ _ _ (by simpa using hc)
      have hkeep : (init ++ [s]).rdropWhile (· = "") = init ++ [s] :=
        List.rdropWhile_concat_neg _ _ _ (by simpa using hne)
      rw [hcut, hkeep, Path.text_segments_concat, List.append_assoc]

/-- A plain segment, and the empty one, make the end of the access path. -/
theorem PlainSegment.access : PlainSegment "access" where
  keeps := List.all_eq_true.1 (by decide +kernel)
  no_slash := by decide +kernel
  no_backslash := by decide +kernel
  not_single_dot := by decide +kernel
  not_double_dot := by decide +kernel

/-- The two segments the access path ends in, written out. -/
theorem Path.text_access : (Path.segments ["access", ""]).text.toList = "/access/".toList := by
  decide +kernel

/-- An authority the parser left is written so that it reads back. -/
theorem Authority.Parsed.written {scheme : String} {a : Authority} (ha : a.Parsed scheme) :
    a.Written scheme := by
  obtain ⟨cs, hcs⟩ := ha.host
  exact ⟨ha.username, ha.password, (Host.parseSpecial_text hcs).1, ha.port⟩

/-- A URL under `http` or `https` with no credentials or port, a plain domain name as its host,
plain path segments, a plain query and no fragment, written out, is parsed back to itself. -/
theorem parse_text_of_domain {scheme : String} (hscheme : scheme = "http" ∨ scheme = "https")
    {name : String} (hchars : ∀ c ∈ name.toList, Idna.isDomainChar c = true)
    (hname : name.toList ≠ [])
    (hplain : Idna.hasPunycodeLabel name = false) (hnumber : endsInNumber name = false)
    {items : List String} (hne : items ≠ []) (hitems : ∀ s ∈ items, PlainSegment s)
    {query : Option String}
    (hquery : ∀ q ∈ query, ∀ c ∈ q.toList, EncodeSet.specialQuery.keeps c = true) :
    parse (Url.text ⟨scheme, some ⟨"", "", .domain name, none⟩, .segments items, query, none⟩) =
      .ok ⟨scheme, some ⟨"", "", .domain name, none⟩, .segments items, query, none⟩ := by
  have hhost : Host.Readable (.domain name) := Host.Readable.of_domainChars hname hchars
  have hwritten : Authority.Written scheme ⟨"", "", .domain name, none⟩ :=
    ⟨by simp, by simp, hhost, by simp⟩
  rw [parse_text_of_written hscheme hwritten hne hitems hquery]
  simp [Host.text, Host.parseSpecial_plain_domain hchars hname hplain hnumber, Except.map]

end WriteAccess.Url

namespace WriteAccess.HttpSource

open Url

/-- The access text of a URL with an authority, segments and nothing after them is the URL with
its trailing empty segments dropped and the segments `access` and the empty one added. -/
theorem accessUrlText_segments {scheme : String} {a : Authority} (ha : a.Written scheme)
    {items : List String} (hitems : ∀ s ∈ items, PlainSegment s) :
    accessUrlText ⟨scheme, some a, .segments items, none, none⟩ =
      Url.text ⟨scheme, some a, .segments (items.rdropWhile (· = "") ++ ["access", ""]),
        none, none⟩ := by
  have htext : ∀ items : List String,
      (Url.text ⟨scheme, some a, .segments items, none, none⟩).toList =
        scheme.toList ++ [':', '/', '/'] ++ a.text.toList ++ (Path.segments items).text.toList :=
    fun items => by simp [Url.text, authorityText, pathAndQuery]
  -- the authority is not empty and has no slash, so the cut stops inside the path
  have hauth : a.text.toList ≠ [] := by
    rw [Authority.text_toList]
    simp [ha.host.ne_nil]
  have hlast : ∀ h : scheme.toList ++ [':', '/', '/'] ++ a.text.toList ≠ [],
      (scheme.toList ++ [':', '/', '/'] ++ a.text.toList).getLast h ≠ '/' := fun h => by
    rw [List.getLast_append_of_ne_nil h hauth]
    exact (ha.text_chars _ (List.getLast_mem hauth)).2.1
  have hcut : (scheme.toList ++ [':', '/', '/'] ++ a.text.toList ++
      (Path.segments items).text.toList).rdropWhile (· = '/') =
        scheme.toList ++ [':', '/', '/'] ++ a.text.toList ++
          (Path.segments (items.rdropWhile (· = ""))).text.toList :=
    rdropWhile_slash_segments hlast fun s hs => (hitems s hs).no_slash
  have hrdrop : ∀ l : List Char, (l.reverse.dropWhile (· = '/')).reverse = l.rdropWhile (· = '/') :=
    fun _ => rfl
  rw [← String.toList_inj, accessUrlText, String.toList_append, String.toList_ofList, hrdrop,
    htext, htext, Path.text_segments_append, Path.text_access, hcut, List.append_assoc]

/-- For a base the parser left under `http` or `https`, with no query or fragment, the access URL
is the base with its trailing empty segments dropped and the segments `access` and the empty one
added, and with its host read again from its text: the source is there exactly when that host is
read. -/
theorem ofBase_of_parsed {base : Url} (hbase : base.Parsed)
    (hscheme : base.scheme = "http" ∨ base.scheme = "https") (hquery : base.query = none)
    (hfragment : base.fragment = none) :
    ∃ a items, base.authority = some a ∧ base.path = .segments items ∧
      (∀ s ∈ items, PlainSegment s) ∧
      ∀ s : HttpSource, ofBase base = .ok s ↔ ∃ h, Host.parseSpecial a.host.text.toList = .ok h ∧
        s.accessUrl = { base with
          authority := some { a with host := h }
          path := .segments (items.rdropWhile (· = "") ++ ["access", ""]) } := by
  obtain ⟨a, hauth, ha⟩ := hbase.authority
  obtain ⟨items, hpath, -, hitems⟩ := hbase.path
  refine ⟨a, items, hauth, hpath, hitems, fun s => ?_⟩
  rcases base with ⟨scheme, authority, path, query, fragment⟩
  simp only at hauth hpath hquery hfragment hscheme ha
  subst hauth hpath hquery hfragment
  have hplain : ∀ s ∈ items.rdropWhile (· = "") ++ ["access", ""], PlainSegment s := by
    intro s hs
    rcases List.mem_append.1 hs with hs | hs
    · exact hitems s ((List.rdropWhile_prefix _ _).subset hs)
    · rcases List.mem_pair.1 hs with rfl | rfl
      · exact PlainSegment.access
      · exact PlainSegment.empty
  unfold ofBase
  dsimp only
  rw [accessUrlText_segments ha.written hitems,
    parse_text_of_written hscheme ha.written (by simp) hplain
      (by simp : ∀ q ∈ (none : Option String), ∀ c ∈ q.toList,
        EncodeSet.specialQuery.keeps c = true)]
  -- the parse of the access text succeeds exactly when the host is read again
  rcases s with ⟨url⟩
  cases Host.parseSpecial a.host.text.toList with
  | error e => simp [Except.map]
  | ok h => simp [Except.map, eq_comm]

/-- The path of the access URL, as text: the path of the base without its trailing slashes,
then `/access/`. -/
theorem accessPath_text {items : List String} (hitems : ∀ s ∈ items, PlainSegment s) :
    (Path.segments (items.rdropWhile (· = "") ++ ["access", ""])).text =
      String.ofList ((Path.segments items).text.toList.rdropWhile (· = '/')) ++ "/access/" := by
  have hcut : ([] ++ (Path.segments items).text.toList).rdropWhile (· = '/') =
      [] ++ (Path.segments (items.rdropWhile (· = ""))).text.toList :=
    rdropWhile_slash_segments (by simp) fun s hs => (hitems s hs).no_slash
  rw [List.nil_append, List.nil_append] at hcut
  rw [← String.toList_inj, String.toList_append, String.toList_ofList, hcut,
    Path.text_segments_append, Path.text_access]

/-! ## The first page -/

/-- The first page is asked for at the access URL, with the application and the page size as
the form-encoded query when the access URL has none. -/
theorem firstPageUrl_query {s : HttpSource} (hs : s.accessUrl.query = none) (application : String) :
    (s.firstPageUrl application).query =
      some ("&".intercalate ([("application", application), ("limit", "1000")].map formPair)) := by
  have hlimit : toString pageLimit = "1000" := rfl
  simp [firstPageUrl, appendQueryPairs, hs, hlimit]

/-- The query of the first page, written out. -/
theorem firstPageQuery_text (application : String) :
    "&".intercalate ([("application", application), ("limit", "1000")].map formPair) =
      "application=" ++ formEncode application ++ "&limit=1000" := by
  have happ : formEncode "application" = "application" := by decide +kernel
  have hlimit : formPair ("limit", "1000") = "limit=1000" := by decide +kernel
  rw [List.map_cons, List.map_cons, List.map_nil, hlimit, String.intercalate_cons_cons,
    String.intercalate_singleton]
  simp [formPair, happ, String.append_assoc]

/-- Every walk over the pages asks first for the page it starts at. -/
theorem Walk.head_requested {s : HttpSource} {R : Nat → Http.Response} {header : String}
    {i : Nat} {url : Url} {requested : List Url} {result : Except RbacError (List Grant)}
    (h : s.Walk R header i url requested result) : ∀ u ∈ requested.head?, u = url := by
  cases h <;> simp

/-- The first request a lookup sends, if it sends any, is for the first page, with the identity
header. -/
theorem lookup_first_request (s : HttpSource) (R : Nat → Http.Response)
    (header application : String) :
    ∀ request ∈ ((s.source (Http.Transport.replay R)).fetch [] header application).1.head?,
      request = (Http.withoutCredentials (s.firstPageUrl application), header) := by
  obtain ⟨requested, result, hwalk, hsent, -⟩ :=
    fetchPages_walk s R header maxPages [] ⟨0⟩ (s.firstPageUrl application) AccessList.empty []
      (by decide) (by decide)
  have hlog : ((s.source (Http.Transport.replay R)).fetch [] header application).1 =
      requested.map (fun u => (Http.withoutCredentials u, header)) := by
    simpa [source] using hsent
  intro request hrequest
  rw [hlog, List.head?_map] at hrequest
  obtain ⟨u, hu, rfl⟩ := Option.map_eq_some_iff.1 hrequest
  rw [hwalk.head_requested u hu]

/-- A configuration whose service URL has an access source gives the client over that source. -/
theorem ofConfig_of_ofBase {τ : Type} {config : Config} {base : Url} {s : HttpSource}
    (hurl : config.rbacUrl = some base) (hs : ofBase base = .ok s) (t : Http.Transport τ) :
    RbacClient.ofConfig config t = .ok (RbacClient.new (s.source t) config.rbacApplication) := by
  simp [RbacClient.ofConfig, hurl, hs, bind, Except.bind, pure, Except.pure]

/-- The access endpoint of a service at a base URL parsed under `http` or `https`, with no query
or fragment. The access URL is the base with its trailing slashes cut off and `/access/` added to
its path, the base's scheme, credentials, host and port, and no query or fragment, exactly when
the base's host is read back as itself from its text; every host but a domain name with a label
in Punycode form is. Whenever there is a source, its access path is the base's path without its
trailing slashes, then `/access/`; the first request of every lookup goes to the access URL, with
the application and the page size as a form-encoded query the service decodes back to the two
pairs; and a configuration with that service URL makes its client over that source. -/
theorem ofBase_access_endpoint {input : String} {base : Url} (hbase : Url.parse input = .ok base)
    (hscheme : base.scheme = "http" ∨ base.scheme = "https") (hquery : base.query = none)
    (hfragment : base.fragment = none) :
    ∃ a items, base.authority = some a ∧ base.path = .segments items ∧
      (a.host.isPunycodeDomain = false → a.host.Rereads) ∧
      ((∃ s : HttpSource, ofBase base = .ok s ∧
          s.accessUrl = { base with path := .segments (items.rdropWhile (· = "") ++
            ["access", ""]) }) ↔ a.host.Rereads) ∧
      ∀ s : HttpSource, ofBase base = .ok s →
        s.accessUrl.path.text =
          String.ofList (base.path.text.toList.rdropWhile (· = '/')) ++ "/access/" ∧
        (∀ application, (s.firstPageUrl application).query =
            some ("application=" ++ formEncode application ++ "&limit=1000") ∧
          formPairs ("application=" ++ formEncode application ++ "&limit=1000") =
            some [("application", application), ("limit", "1000")]) ∧
        (∀ (R : Nat → Http.Response) (header application : String),
          ∀ request ∈ ((s.source (Http.Transport.replay R)).fetch [] header application).1.head?,
            request = (Http.withoutCredentials (s.firstPageUrl application), header)) ∧
        ∀ {τ : Type} (config : Config) (t : Http.Transport τ), config.rbacUrl = some base →
          RbacClient.ofConfig config t =
            .ok (RbacClient.new (s.source t) config.rbacApplication) := by
  have hparsed := parse_parsed hbase hscheme
  obtain ⟨a, items, hauth, hpath, hitems, hs⟩ :=
    ofBase_of_parsed hparsed hscheme hquery hfragment
  obtain ⟨a', hauth', ha⟩ := hparsed.authority
  obtain rfl : a = a' := Option.some.inj (hauth.symm.trans hauth')
  obtain ⟨cs, hcs⟩ := ha.host
  refine ⟨a, items, hauth, hpath, (Host.parseSpecial_text hcs).2, ⟨?_, ?_⟩, fun s hsok => ?_⟩
  · -- the access URL keeps the authority only when the host read again is the host
    rintro ⟨s, hsok, hurl⟩
    obtain ⟨h, hh, hurl'⟩ := (hs s).1 hsok
    have hsame : some { a with host := h } = some a := by
      have := congrArg Url.authority (hurl'.symm.trans hurl)
      simpa [hauth] using this
    have hhost : h = a.host := congrArg Authority.host (Option.some.inj hsame)
    rw [Host.Rereads, hh, hhost]
  · intro hreread
    refine ⟨_, (hs _).2 ⟨a.host, hreread, rfl⟩, ?_⟩
    rcases base with ⟨scheme, authority, path, query, fragment⟩
    simp only at hauth
    simp [hauth]
  · obtain ⟨h, -, hurl⟩ := (hs s).1 hsok
    have hsquery : s.accessUrl.query = none := by
      rw [hurl]
      exact hquery
    refine ⟨?_, fun application => ?_, lookup_first_request _,
      fun config t hconfig => ofConfig_of_ofBase hconfig hsok t⟩
    · rw [hurl, hpath]
      exact accessPath_text hitems
    · rw [firstPageUrl_query hsquery, ← firstPageQuery_text]
      exact ⟨rfl, formPairs_intercalate _⟩

/-- The one segment of the sample bases below. -/
theorem PlainSegment.v1 : PlainSegment "v1" where
  keeps := List.all_eq_true.1 (by decide +kernel)
  no_slash := by decide +kernel
  no_backslash := by decide +kernel
  not_single_dot := by decide +kernel
  not_double_dot := by decide +kernel

/-- The service at `http://rbac/v1` has its access listing at `http://rbac/v1/access/`. -/
theorem ofBase_access_endpoint_at_rbac :
    let base : Url := ⟨"http", some ⟨"", "", .domain "rbac", none⟩, .segments ["v1"], none, none⟩
    Url.parse "http://rbac/v1" = .ok base ∧ (base.scheme = "http" ∨ base.scheme = "https") ∧
      base.query = none ∧ base.fragment = none ∧
      ∃ s : HttpSource, ofBase base = .ok s ∧
        s.accessUrl = { base with path := .segments ["v1", "access", ""] } := by
  intro base
  have hparse : Url.parse "http://rbac/v1" = .ok base := by
    have htext : Url.text base = "http://rbac/v1" := by decide +kernel
    rw [← htext]
    exact parse_text_of_domain (.inl rfl) (List.all_eq_true.1 (by decide +kernel))
      (by decide +kernel) (by decide +kernel) (by decide +kernel) (by simp)
      (by simpa using PlainSegment.v1) (by simp)
  obtain ⟨a, items, hauth, hpath, hreread, hendpoint, -⟩ :=
    ofBase_access_endpoint hparse (.inl rfl) rfl rfl
  obtain rfl : a = ⟨"", "", .domain "rbac", none⟩ := (Option.some.inj hauth).symm
  obtain rfl : items = ["v1"] := (Path.segments.inj hpath).symm
  -- `rbac` has no label in Punycode form, so it is read back and the endpoint follows
  obtain ⟨s, hs, hurl⟩ := hendpoint.2 (hreread (by decide +kernel))
  refine ⟨hparse, .inl rfl, rfl, rfl, s, hs, ?_⟩
  rw [hurl]
  decide +kernel

/-- A base with a query swallows the access path: `/access/` is added after the query, so the
access URL keeps the path of the base and has the query `x=1/access/`. -/
theorem ofBase_query_swallows_access :
    let base : Url :=
      ⟨"http", some ⟨"", "", .domain "rbac", none⟩, .segments ["v1"], some "x=1", none⟩
    Url.parse "http://rbac/v1?x=1" = .ok base ∧
      ofBase base = .ok ⟨{ base with query := some "x=1/access/" }⟩ := by
  intro base
  -- the base, with any plain query, is read back from its text
  have hparse : ∀ query : String, (∀ c ∈ query.toList, EncodeSet.specialQuery.keeps c = true) →
      parse (Url.text { base with query := some query }) = .ok { base with query := some query } :=
    fun query hquery => parse_text_of_domain (.inl rfl) (List.all_eq_true.1 (by decide +kernel))
      (by decide +kernel) (by decide +kernel) (by decide +kernel) (by simp)
      (by simpa using PlainSegment.v1)
      (by simpa using hquery)
  have hbase : Url.text base = "http://rbac/v1?x=1" := by decide +kernel
  have haccess : accessUrlText base = Url.text { base with query := some "x=1/access/" } := by
    decide +kernel
  refine ⟨?_, ?_⟩
  · rw [← hbase]
    exact hparse "x=1" (List.all_eq_true.1 (by decide +kernel))
  · unfold ofBase
    dsimp only
    rw [haccess, hparse "x=1/access/" (List.all_eq_true.1 (by decide +kernel))]

end WriteAccess.HttpSource
