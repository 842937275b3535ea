import WriteAccess.Http.Client

/-!
# A scripted service

A service that answers every GET, whatever its path, with the next page of a script: the
request numbered `i` (from zero) gets page `i`, or the last page once the script is used up, or
an empty access listing when the script has no page. It records every request it receives as its
method, its path and query, and its identity header as a server reads it: without the spaces
and tabs around the value.

A service that is not listening receives nothing, so every exchange fails; an `https` request
fails its handshake against the plain service and is not recorded either. Every exchange is over
at once: against deadlines of seconds the service's answers take no time.
-/

namespace WriteAccess.Http

/-- One scripted answer. -/
structure ScriptedPage where
  status : Nat
  body : ByteArray

/-- A request as the service received it. -/
structure ReceivedRequest where
  method : String
  target : String
  identity : Option String
  deriving DecidableEq, Repr

/-- The scripted service: its pages, whether it is listening, and the requests it received. -/
structure Script where
  pages : List ScriptedPage
  listening : Bool
  received : List ReceivedRequest

namespace Script

/-- The answer when the script has no page: an empty access listing. -/
def defaultPage : ScriptedPage := ⟨200, "\x7b\"data\":[]\x7d".toUTF8⟩

/-- The page that answers request number `i`. -/
def pageAt (s : Script) (i : Nat) : ScriptedPage :=
  s.pages.getD (min i (s.pages.length - 1)) defaultPage

/-- Whether a character is optional whitespace around a header value. -/
def isHeaderBlank (c : Char) : Bool := c = ' ' || c = '\t'

/-- A header value as a server reads it: without leading and trailing spaces and tabs. -/
def readHeaderValue (v : String) : String :=
  String.ofList ((v.toList.dropWhile isHeaderBlank).reverse.dropWhile isHeaderBlank).reverse

/-- The transport that reaches the scripted service. -/
def transport : Transport Script :=
  ⟨fun s url header =>
    if !s.listening || url.scheme = "https" then (s, ⟨none, ⟨0⟩⟩)
    else
      let page := s.pageAt s.received.length
      ({ s with received := s.received ++ [⟨"GET", url.pathAndQuery, some (readHeaderValue header)⟩] },
        ⟨some ⟨page.status, page.body⟩, ⟨0⟩⟩)⟩

end Script

end WriteAccess.Http
