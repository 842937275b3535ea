import WriteAccess.Config
import WriteAccess.Http.Client
import WriteAccess.Rbac.Lookup
import WriteAccess.Rbac.Page

/-!
# The access service over HTTP

The access listing lives at `<base>/access/`: the base URL as written, without its trailing
slashes, with `/access/` added as text (so a query or fragment of the base swallows it), read
again as a URL.

A lookup asks for the first page with the application and a page size of 1000 added to the
query, and sends the identity header. A status that is not a success, a body that is not an
access page, or a failed exchange ends the lookup with an error. Each page's grants are added to
the list; a non-empty `next` link, resolved against the access URL, gives the next page. After
100 pages that all have a next link the lookup gives up.

A lookup's time is the time of its exchanges, one after the other; a page's warnings are logged
when its exchange ends, and the lookup ends when its last exchange does.
-/

/-! ## Form-encoded query pairs

Name-value pairs added to a query in the `application/x-www-form-urlencoded` form: every byte of
the UTF-8 text is kept when it is an ASCII letter or digit or one of `*-._`, the space becomes
`+`, and every other byte is written `%XX`. Pairs are joined by `&`, and by a further `&` to a
query that is not empty.
-/

namespace WriteAccess.Url

/-- How one byte is written in a form-encoded text. -/
def formByte (b : UInt8) : String :=
  let c := Char.ofNat b.toNat
  if c.isAlphanum || c = '*' || c = '-' || c = '.' || c = '_' then String.singleton c
  else if c = ' ' then "+"
  else percentByte b

/-- A text in the form encoding. -/
def formEncode (s : String) : String :=
  String.join (s.toUTF8.toList.map formByte)

/-- One pair, `name=value`, in the form encoding. -/
def formPair (pair : String × String) : String :=
  formEncode pair.1 ++ "=" ++ formEncode pair.2

/-- The URL with the pairs added to its query; the fragment stays. -/
def appendQueryPairs (u : Url) (pairs : List (String × String)) : Url :=
  let added := "&".intercalate (pairs.map formPair)
  let query :=
    match u.query with
    | some q => if q.isEmpty then added else q ++ "&" ++ added
    | none => added
  { u with query := some query }

end WriteAccess.Url

/-! ## Paged lookups -/

namespace WriteAccess

/-- The access listing of the service, reached over a transport. -/
structure HttpSource where
  accessUrl : Url

namespace HttpSource

/-- The page size asked for. -/
def pageLimit : Nat := 1000

/-- The most pages one lookup follows. -/
def maxPages : Nat := 100

/-- The text of the access URL of a base: the base without trailing slashes, then `/access/`. -/
def accessUrlText (base : Url) : String :=
  String.ofList (base.text.toList.reverse.dropWhile (· = '/')).reverse ++ "/access/"

/-- The source for the service at a base URL. -/
def ofBase (base : Url) : Except ConfigError HttpSource :=
  let raw := accessUrlText base
  match Url.parse raw with
  | .ok u => .ok ⟨u⟩
  | .error e => .error (.invalidRbacUrl raw e)

/-- The URL of the first page for an application. -/
def firstPageUrl (s : HttpSource) (application : String) : Url :=
  Url.appendQueryPairs s.accessUrl [("application", application), ("limit", toString pageLimit)]

/-- What a lookup reads from an answer: the page, when the status is a success and the body an
access page, or why the lookup fails there. -/
def readAnswer (response : Http.Response) : Except RbacError Json.Value :=
  if !Http.isSuccess response.status then .error (.status response.status)
  else
    match AccessPage.shape.read response.body with
    | .ok page => .ok page
    | .error e => .error (.malformedResponse e.message)

/-- One page: the time its exchange took, and its decoded value or why the lookup fails there. -/
def fetchPage (t : Http.Transport τ) (st : τ) (url : Url) (header : String) :
    τ × Duration × Except RbacError Json.Value :=
  match Http.get t st url header with
  | (next, took, .error e) => (next, took, .error (.transport e.message))
  | (next, took, .ok response) => (next, took, readAnswer response)

/-- Follows the pages from `url`, at most `fuel` of them, from `clock` into the lookup: adds their
grants to `acl` and their warnings to `events`, each stamped with the end of its page's exchange,
and ends the run at the end of the last exchange. -/
def fetchPages (s : HttpSource) (t : Http.Transport τ) (header : String) :
    Nat → τ → Duration → Url → AccessList → List TimedEvent → τ × LookupRun
  | 0, st, clock, _, _, events =>
    (st, ⟨events, some clock,
      .error (.malformedResponse ("pagination exceeded " ++ toString maxPages ++ " pages"))⟩)
  | fuel + 1, st, clock, url, acl, events =>
    match fetchPage t st url header with
    | (next, took, .error e) => (next, ⟨events, some (clock + took), .error e⟩)
    | (next, took, .ok page) =>
      let clock := clock + took
      let (grants, warnings) := AccessPage.grants page
      let acl := acl.append grants
      let events := events ++ warnings.map (TimedEvent.mk clock)
      match AccessPage.next page with
      | some link =>
        if link.isEmpty then (next, ⟨events, some clock, .ok acl⟩)
        else
          match s.accessUrl.join link with
          | .ok u => fetchPages s t header fuel next clock u acl events
          | .error e => (next, ⟨events, some clock, .error (.malformedResponse e.message)⟩)
      | none => (next, ⟨events, some clock, .ok acl⟩)

/-- The access source that looks up over the transport, from the first page at the start of the
lookup. -/
def source (s : HttpSource) (t : Http.Transport τ) : AccessSource τ :=
  ⟨fun st header application =>
    s.fetchPages t header maxPages st ⟨0⟩ (s.firstPageUrl application) AccessList.empty []⟩

end HttpSource

/-- The client of the service configured by a configuration, over a transport: an error when
no URL is configured. -/
def RbacClient.ofConfig (config : Config) (t : Http.Transport τ) :
    Except ConfigError (RbacClient τ) :=
  match config.rbacUrl with
  | none => .error .missingRbacUrl
  | some base => do
    let s ← HttpSource.ofBase base
    pure (RbacClient.new (s.source t) config.rbacApplication)

end WriteAccess
