import WriteAccess.Url.Basic

/-!
# Parsing URLs

The URL parser of the WHATWG URL Standard, as a set of functions, one per group of states:
the scheme, the authority (credentials, host, port), the path with its dot segments, the query
and the fragment; `file` URLs and references relative to a base have their own.

Before parsing, C0 controls and spaces are trimmed from both ends of the input and every tab and
newline inside it is dropped. Under a special scheme a backslash separates path segments like a
slash, any number of slashes may introduce the authority, and the host must not be empty.

A few choices follow the widely deployed implementation rather than the letter of the standard:
the userinfo ends at the last `@` before the path, an `@` directly before the path with nothing
ahead of it is an empty host, a relative reference starting with two slashes (or backslashes)
drops exactly two, a path of a `file` URL loses its leading empty segments, a `file` URL whose
path starts with a drive letter loses its host, and a drive letter segment is never removed by
`..`.
-/

namespace WriteAccess.Url

/-! ## Preparing the input -/

/-- Whether a character is a C0 control or the space. -/
def isControlOrSpace (c : Char) : Bool := c ≤ ' '

/-- The input with C0 controls and spaces trimmed from both ends and every tab, line feed and
carriage return removed. -/
def prepare (input : String) : List Char :=
  let cs := input.toList.dropWhile isControlOrSpace
  let cs := (cs.reverse.dropWhile isControlOrSpace).reverse
  cs.filter (fun c => c != '\t' && c != '\n' && c != '\r')

/-! ## Scheme -/

/-- Whether a character may follow the first letter of a scheme. -/
def isSchemeChar (c : Char) : Bool := c.isAlphanum || c = '+' || c = '-' || c = '.'

/-- Reads the rest of a scheme up to its `:`, lower-casing it. -/
def readScheme : List Char → List Char → Option (String × List Char)
  | _, [] => none
  | acc, c :: rest =>
    if c = ':' then some (String.ofList acc.reverse, rest)
    else if isSchemeChar c then readScheme (c.toLower :: acc) rest
    else none

/-- The scheme of an input and the text after its `:`, if it starts with one. -/
def splitScheme : List Char → Option (String × List Char)
  | c :: rest => if c.isAlpha then readScheme [c.toLower] rest else none
  | [] => none

/-! ## Path segments -/

/-- Whether a segment is `.`, possibly percent-encoded. -/
def isSingleDot (s : String) : Bool := s = "." || s.toLower = "%2e"

/-- Whether a segment is `..`, possibly percent-encoded. -/
def isDoubleDot (s : String) : Bool := ["..", ".%2e", "%2e.", "%2e%2e"].contains s.toLower

/-- Whether a segment is a Windows drive letter: a letter and `:` or `|`. -/
def isDriveLetter (s : String) : Bool :=
  match s.toList with
  | [a, b] => a.isAlpha && (b = ':' || b = '|')
  | _ => false

/-- Whether a segment is a normalized Windows drive letter: a letter and `:`. -/
def isNormalizedDriveLetter (s : String) : Bool :=
  match s.toList with
  | [a, b] => a.isAlpha && b = ':'
  | _ => false

/-- Whether a text starts with a Windows drive letter that makes up its whole first segment. -/
def startsWithDriveLetter : List Char → Bool
  | a :: b :: rest =>
    a.isAlpha && (b = ':' || b = '|') &&
      (match rest with
        | [] => true
        | c :: _ => c = '/' || c = '\\' || c = '?' || c = '#')
  | _ => false

/-- The base path without its last segment, before a relative path is read onto it; a `file`
path keeps a final normalized drive letter. -/
def popPath (file : Bool) (path : List String) : List String :=
  match path.getLast? with
  | some last => if file && isNormalizedDriveLetter last then path else path.dropLast
  | none => path

/-- The path without its last segment, for a `..` segment. A last segment that starts like a Windows drive letter
(a letter, then `:` or `|`, then nothing or a backslash) stays, under every scheme: the slash
after it is never taken away, so there is nothing left to remove. -/
def shortenPath (path : List String) : List String :=
  match path.getLast? with
  | some last => if startsWithDriveLetter last.toList then path else path.dropLast
  | none => path

/-- Cuts a text at the separators. -/
def splitSegments (isSeparator : Char → Bool) : List Char → List Char → List (List Char)
  | [], current => [current.reverse]
  | c :: rest, current =>
    if isSeparator c then current.reverse :: splitSegments isSeparator rest []
    else splitSegments isSeparator rest (c :: current)

/-- The path after one more segment, read from `raw` and followed by a separator or not. The flag
records a drive letter that opened a `file` path. -/
def pathStep (file : Bool) (st : List String × Bool) (raw : List Char) (separatorAfter : Bool) :
    List String × Bool :=
  let (path, drive) := st
  let buffer := encodeChars .path raw
  if isDoubleDot buffer then
    let shorter := shortenPath path
    (if separatorAfter then shorter else shorter ++ [""], drive)
  else if isSingleDot buffer then
    (if separatorAfter then path else path ++ [""], drive)
  else if file && path.isEmpty && isDriveLetter buffer then
    (path ++ [String.ofList [buffer.front, ':']], true)
  else (path ++ [buffer], drive)

/-- The path after the segments, each but the last followed by a separator. -/
def applySegments (file : Bool) : List String × Bool → List (List Char) → List String × Bool
  | st, [] => st
  | st, [raw] => pathStep file st raw false
  | st, raw :: rest => applySegments file (pathStep file st raw true) rest

/-- The path without its leading empty segments, keeping at least one. -/
def trimLeadingEmpty : List String → List String
  | "" :: next :: rest => trimLeadingEmpty (next :: rest)
  | path => path

/-- The path state: the segments up to `?`, `#` or the end, added to `start`. Gives the path,
whether a drive letter opened it, and the rest of the input. -/
def readPath (special file : Bool) (start : List String) (input : List Char) :
    List String × Bool × List Char :=
  let (text, rest) := input.span (fun c => c != '?' && c != '#')
  let isSeparator := fun c => c = '/' || (special && c = '\\')
  let (path, drive) := applySegments file (start, false) (splitSegments isSeparator text [])
  ((if file then trimLeadingEmpty path else path), drive, rest)

/-! ## Query and fragment -/

/-- The fragment, if the text starts with `#`. -/
def readFragment : List Char → Option String
  | '#' :: rest => some (encodeChars .fragment rest)
  | _ => none

/-- The query and the fragment of the text after a path. -/
def readQueryAndFragment (special : Bool) : List Char → Option String × Option String
  | '?' :: rest =>
    let (query, after) := rest.span (· != '#')
    (some (encodeChars (if special then .specialQuery else .query) query), readFragment after)
  | cs => (none, readFragment cs)

/-! ## Authority -/

/-- Reads a port up to `/`, `\`, `?`, `#` or the end. No digits, or the scheme's default port,
give no port. -/
def readPort (scheme : String) : Nat → Bool → List Char → Except ParseError (Option Nat × List Char)
  | value, anyDigit, c :: rest =>
    if c.isDigit then
      let v := value * 10 + (c.toNat - 48)
      if v > 65535 then .error .invalidPort else readPort scheme v true rest
    else if c = '/' || c = '\\' || c = '?' || c = '#' then
      .ok ((if !anyDigit || some value = defaultPort scheme then none else some value), c :: rest)
    else .error .invalidPort
  | value, anyDigit, [] =>
    .ok ((if !anyDigit || some value = defaultPort scheme then none else some value), [])

/-- A text cut at its last `@`. -/
def splitLastAt (cs : List Char) : Option (List Char × List Char) :=
  match cs.reverse.span (· != '@') with
  | (_, []) => none
  | (afterReversed, _ :: beforeReversed) => some (beforeReversed.reverse, afterReversed.reverse)

/-- The username and password of a userinfo, cut at its first `:`. -/
def credentialsOf (userinfo : List Char) : String × String :=
  match userinfo.span (· != ':') with
  | (user, []) => (encodeChars .userinfo user, "")
  | (user, _ :: password) => (encodeChars .userinfo user, encodeChars .userinfo password)

/-- The host text: up to a `:` outside brackets, `/`, `?`, `#`, or `\` under a special scheme. -/
def scanHost (special : Bool) : Bool → List Char → List Char × List Char
  | _, [] => ([], [])
  | inside, c :: rest =>
    if (c = ':' && !inside) || c = '/' || c = '?' || c = '#' || (special && c = '\\') then
      ([], c :: rest)
    else
      let inside := if c = '[' then true else if c = ']' then false else inside
      let (host, after) := scanHost special inside rest
      (c :: host, after)

/-- The credentials of an authority and the text from its host on. Without an `@` there are
none; an `@` with nothing before it gives none, and the empty host when only the path follows
it. -/
def readCredentials (input auth afterAuth : List Char) :
    Except ParseError (String × String × List Char) :=
  match splitLastAt auth with
  | none => .ok ("", "", input)
  | some ([], after) =>
    if after.isEmpty && !afterAuth.isEmpty then .error .emptyHost
    else .ok ("", "", after ++ afterAuth)
  | some (info, after) =>
    let (u, p) := credentialsOf info
    .ok (u, p, after ++ afterAuth)

/-- The host of an authority; under a special scheme it may not be empty. -/
def readHost (special : Bool) (hostChars : List Char) : Except ParseError Host :=
  if special then
    if hostChars.isEmpty then .error .emptyHost else Host.parseSpecial hostChars
  else Host.parseVerbatim hostChars

/-- The port after a host, when a `:` follows it, and the text after the port. -/
def readPortAfter (scheme : String) : List Char → Except ParseError (Option Nat × List Char)
  | ':' :: more => readPort scheme 0 false more
  | afterHost => .ok (none, afterHost)

/-- The path after an authority, and the text after the path. Under a special scheme the path
starts after one slash or backslash; otherwise a path must start with a slash, and a query or
fragment may follow the authority directly. -/
def readAuthorityPath (special : Bool) (afterPort : List Char) : List String × List Char :=
  let (segments, _, afterPath) :=
    if special then
      match afterPort with
      | c :: more => readPath true false [] (if c = '/' || c = '\\' then more else afterPort)
      | [] => readPath true false [] []
    else
      match afterPort with
      | [] => ([], false, [])
      | c :: more =>
        if c = '?' || c = '#' then ([], false, afterPort)
        else if c = '/' then readPath false false [] more
        else readPath false false [] afterPort
  (segments, afterPath)

/-- Fails with an error when a condition holds. -/
def refuseIf (condition : Bool) (e : ParseError) : Except ParseError Unit :=
  if condition then .error e else .ok ()

/-- Parses what follows the slashes that introduce an authority, under a scheme that is not
`file`. -/
def parseAuthority (scheme : String) (input : List Char) : Except ParseError Url := do
  let special := isSpecialScheme scheme
  let stop := fun c => c = '/' || c = '?' || c = '#' || (special && c = '\\')
  let (auth, afterAuth) := input.span (fun c => !stop c)
  let (user, password, rest) ← readCredentials input auth afterAuth
  let (hostChars, afterHost) := scanHost special false rest
  let host ← readHost special hostChars
  refuseIf (host = .empty && afterHost.head? = some ':') .emptyHost
  let (port, afterPort) ← readPortAfter scheme afterHost
  refuseIf (host = .empty && (!user.isEmpty || !password.isEmpty)) .emptyHost
  let (segments, afterPath) := readAuthorityPath special afterPort
  let (query, fragment) := readQueryAndFragment special afterPath
  pure
    { scheme, authority := some ⟨user, password, host, port⟩, path := .segments segments,
      query, fragment }

/-! ## Schemes that are not special -/

/-- Parses the text after the `:` of a scheme that is not special: an authority after `//`, a
path after `/`, or else an opaque path. -/
def parseNonSpecial (scheme : String) (rest : List Char) : Except ParseError Url :=
  match rest with
  | '/' :: '/' :: after => parseAuthority scheme after
  | '/' :: after =>
    let (segments, _, afterPath) := readPath false false [] after
    let (query, fragment) := readQueryAndFragment false afterPath
    .ok { scheme, authority := none, path := .segments segments, query, fragment }
  | _ =>
    let (text, afterPath) := rest.span (fun c => c != '?' && c != '#')
    let (query, fragment) := readQueryAndFragment false afterPath
    .ok { scheme, authority := none, path := .verbatim (encodeChars .controls text), query,
          fragment }

/-! ## References relative to a base -/

/-- The segments of a base's path. -/
def baseSegments (base : Url) : List String :=
  match base.path with
  | .segments items => items
  | .verbatim _ => []

/-- Resolves an input without a scheme against a base that has segments and is not `file`. -/
def parseRelative (base : Url) (input : List Char) : Except ParseError Url :=
  let special := base.isSpecial
  match input with
  | [] => .ok { base with fragment := none }
  | '?' :: _ =>
    let (query, fragment) := readQueryAndFragment special input
    .ok { base with query, fragment }
  | '#' :: rest => .ok { base with fragment := some (encodeChars .fragment rest) }
  | c :: rest =>
    if c = '/' || c = '\\' then
      let (slashes, after) := input.span (fun c => c = '/' || c = '\\')
      if slashes.length ≥ 2 then
        parseAuthority base.scheme
          (match input with
            | '/' :: '/' :: more => more
            | _ => after)
      else
        let (segments, _, afterPath) := readPath special false [] rest
        let (query, fragment) := readQueryAndFragment special afterPath
        .ok { base with path := .segments segments, query, fragment }
    else
      let (segments, _, afterPath) :=
        readPath special false (popPath false (baseSegments base)) input
      let (query, fragment) := readQueryAndFragment special afterPath
      .ok { base with path := .segments segments, query, fragment }

/-! ## File URLs -/

/-- A `file` URL with the given host and path, and the query and fragment of the rest. -/
def fileUrl (host : Host) (segments : List String) (rest : List Char) : Url :=
  let (query, fragment) := readQueryAndFragment true rest
  { scheme := "file", authority := some ⟨"", "", host, none⟩, path := .segments segments, query,
    fragment }

/-- The host of a base `file` URL. -/
def baseHost (base : Url) : Host :=
  match base.authority with
  | some a => a.host
  | none => .empty

/-- Parses a `file` URL after `//`: a host (none when it is empty, `localhost` or a drive
letter) and a path. -/
def parseFileHost (input : List Char) : Except ParseError Url := do
  let (hostChars, after) :=
    input.span (fun c => c != '/' && c != '\\' && c != '?' && c != '#')
  if isDriveLetter (String.ofList hostChars) then
    let (segments, _, rest) := readPath true true [] input
    pure (fileUrl .empty segments rest)
  else
    let host ←
      if hostChars.isEmpty then pure Host.empty
      else do
        let h ← Host.parseSpecial hostChars
        pure (if h = .domain "localhost" then Host.empty else h)
    let (segments, drive, rest) :=
      match after with
      | c :: more => readPath true true [] (if c = '/' || c = '\\' then more else after)
      | [] => readPath true true [] []
    pure (fileUrl (if drive then .empty else host) segments rest)

/-- Parses the text after the `:` of a `file` URL, or a reference against a `file` base. -/
def parseFile (base : Option Url) (input : List Char) : Except ParseError Url :=
  let slash := fun c => c = '/' || c = '\\'
  match input with
  | c :: rest =>
    if slash c then
      match rest with
      | d :: more =>
        if slash d then parseFileHost more
        else parseFileSlash rest
      | [] => parseFileSlash rest
    else parseFileNoSlash input
  | [] => parseFileNoSlash []
where
  /-- After a single slash: the base's host, or its drive letter, and a path. -/
  parseFileSlash (rest : List Char) : Except ParseError Url :=
    let (host, start) :=
      match base with
      | some b =>
        if startsWithDriveLetter rest then (Host.empty, [])
        else
          match baseSegments b with
          | first :: _ =>
            if isNormalizedDriveLetter first then (Host.empty, [first]) else (baseHost b, [])
          | [] => (baseHost b, [])
      | none => (Host.empty, [])
    let (segments, _, after) := readPath true true start rest
    .ok (fileUrl host segments after)
  /-- Without a slash: against the base when there is one, else a path from the root. -/
  parseFileNoSlash (input : List Char) : Except ParseError Url :=
    match base, input with
    | some b, [] => .ok { b with fragment := none }
    | some b, '?' :: _ =>
      let (query, fragment) := readQueryAndFragment true input
      .ok { b with query, fragment }
    | some b, '#' :: rest => .ok { b with fragment := some (encodeChars .fragment rest) }
    | some b, _ =>
      if startsWithDriveLetter input then
        let (segments, _, after) := readPath true true [] input
        .ok (fileUrl .empty segments after)
      else
        let (segments, _, after) := readPath true true (popPath true (baseSegments b)) input
        .ok (fileUrl (baseHost b) segments after)
    | none, _ =>
      let (segments, _, after) := readPath true true [] input
      .ok (fileUrl .empty segments after)

/-! ## Entry points -/

/-- Parses an input, against a base when one is given. -/
def parseWith (base : Option Url) (input : String) : Except ParseError Url :=
  let cs := prepare input
  match splitScheme cs with
  | some (scheme, rest) =>
    if scheme = "file" then parseFile (base.filter (·.scheme = "file")) rest
    else if isSpecialScheme scheme then
      let (slashes, after) := rest.span (fun c => c = '/' || c = '\\')
      match base with
      | some b =>
        if slashes.length < 2 && b.scheme = scheme then parseRelative b rest
        else parseAuthority scheme after
      | none => parseAuthority scheme after
    else parseNonSpecial scheme rest
  | none =>
    match base with
    | none => .error .relativeUrlWithoutBase
    | some b =>
      match cs with
      | '#' :: rest => .ok { b with fragment := some (encodeChars .fragment rest) }
      | _ =>
        if b.cannotBeABase then .error .relativeUrlWithCannotBeABaseBase
        else if b.scheme = "file" then parseFile (some b) cs
        else parseRelative b cs

/-- Parses an absolute URL. -/
def parse (input : String) : Except ParseError Url := parseWith none input

/-- Resolves a reference against this URL as its base. -/
def join (base : Url) (input : String) : Except ParseError Url := parseWith (some base) input

end WriteAccess.Url
