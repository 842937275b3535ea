import WriteAccess.Url.Host

/-!
# URLs

A parsed URL: its scheme, an authority when it has one (credentials, host, port), a path, a
query and a fragment. The path is either a list of segments, written each after a `/`, or an
opaque text that follows the scheme directly (`mailto:x@y`, `data:text/plain,hi`); a URL with an
opaque path cannot serve as the base of a relative reference.

`Url.text` writes a URL back. Every part is stored already percent-encoded, so writing is
concatenation; a URL with no authority whose path starts with an empty segment gets `/.` before
its path, so that the text is not read back with an authority.
-/

namespace WriteAccess

namespace Url

/-- The special schemes: those with a known default port, and `file`. -/
def isSpecialScheme (scheme : String) : Bool :=
  ["http", "https", "ws", "wss", "ftp", "file"].contains scheme

/-- The port a scheme uses when the URL names none. -/
def defaultPort : String → Option Nat
  | "http" => some 80
  | "https" => some 443
  | "ws" => some 80
  | "wss" => some 443
  | "ftp" => some 21
  | _ => none

/-- The authority of a URL: credentials, host and port (absent when it is the default). -/
structure Authority where
  username : String
  password : String
  host : Host
  port : Option Nat
  deriving DecidableEq, Repr

/-- The path of a URL: segments, or an opaque text. -/
inductive Path where
  | segments (items : List String)
  | verbatim (text : String)
  deriving DecidableEq, Repr

end Url

/-- A parsed URL; every part is stored percent-encoded, as it is written. -/
structure Url where
  scheme : String
  authority : Option Url.Authority
  path : Url.Path
  query : Option String
  fragment : Option String
  deriving DecidableEq, Repr

namespace Url

/-- How an authority is written after `//`. -/
def Authority.text (a : Authority) : String :=
  let credentials :=
    if a.username.isEmpty && a.password.isEmpty then ""
    else a.username ++ (if a.password.isEmpty then "" else ":" ++ a.password) ++ "@"
  let port := match a.port with
    | some p => ":" ++ toString p
    | none => ""
  credentials ++ a.host.text ++ port

/-- How a path is written. -/
def Path.text : Path → String
  | .segments items => String.join (items.map ("/" ++ ·))
  | .verbatim text => text

/-- Whether the URL has a special scheme. -/
def isSpecial (u : Url) : Bool := isSpecialScheme u.scheme

/-- Whether the URL has a non-empty host. -/
def hasHost (u : Url) : Bool :=
  match u.authority with
  | some a => a.host != .empty
  | none => false

/-- Whether the URL has an opaque path, and so cannot be a base. -/
def cannotBeABase (u : Url) : Bool :=
  match u.path with
  | .verbatim _ => true
  | .segments _ => false

/-- The text between the scheme and the path. -/
def authorityText (u : Url) : String :=
  match u.authority, u.path with
  | some a, _ => "//" ++ a.text
  | none, .segments ("" :: _ :: _) => "/."
  | none, _ => ""

/-- The path and the query, as a request line carries them. -/
def pathAndQuery (u : Url) : String :=
  u.path.text ++ (match u.query with
    | some q => "?" ++ q
    | none => "")

/-- How a URL is written. -/
def text (u : Url) : String :=
  u.scheme ++ ":" ++ u.authorityText ++ u.pathAndQuery ++
    (match u.fragment with
      | some f => "#" ++ f
      | none => "")

end Url

end WriteAccess
