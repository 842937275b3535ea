import WriteAccess.Duration
import WriteAccess.Url.Basic
import WriteAccess.Url.Percent

/-!
# Sending requests

An HTTP GET carrying one header, sent over a transport. The transport is what reaches a
service: given its state, the request URL and the header value, it gives its next state and how
the exchange went: the service's response, or nothing when the exchange failed (no connection, or
a handshake the service cannot answer), and how long it took. A request refused by the checks
below is never sent and takes no time.

Before anything is sent the request is checked, in this order: the URL must have a host; its
credentials are then taken out of it (they travel as an authorization header instead), unless
the username does not percent-decode to UTF-8, in which case the URL keeps them; the header value
must be a valid header value (no control byte other than tab, no DEL); the scheme must be `http`
or `https`; and the authority must be one a request line can carry: only the characters of a
URI, with `%` only in the userinfo. A failed check is a builder error, which names the URL except
for the header check; a failed exchange is a sending error, which names the URL. The URL named
is the one without its credentials.
-/

namespace WriteAccess.Http

/-- A response: its status and its body. -/
structure Response where
  status : Nat
  body : ByteArray

/-- One exchange with a service: its response, or nothing when it failed, and the time from
sending the request to the end of the response or the failure. -/
structure Exchange where
  response : Option Response
  took : Duration

/-- What reaches a service: the state of the way there, and how an exchange goes for a GET of a
URL with an identity header. -/
structure Transport (τ : Type) where
  deliver : τ → Url → String → τ × Exchange

/-- Why a request got no response. -/
inductive SendError where
  | builder (url : Option Url)
  | sending (url : Url)

/-- The wording of a send error. -/
def SendError.message : SendError → String
  | .builder (some url) => "builder error for url (" ++ url.text ++ ")"
  | .builder none => "builder error"
  | .sending url => "error sending request for url (" ++ url.text ++ ")"

/-- Whether a text may be sent as a header value: every byte is a tab, or visible, or beyond
ASCII. -/
def validHeaderValue (v : String) : Bool :=
  v.toUTF8.toList.all (fun b => b = 9 || (b ≥ 32 && b ≠ 127))

/-- A percent-encoded text, decoded, if the bytes are UTF-8. -/
def decodedText? (s : String) : Option String :=
  String.fromUTF8? (ByteArray.mk (Url.decodeText s).toArray)

/-- The URL with its credentials taken out, as they are moved to an authorization header: kept
when the username does not decode to UTF-8, or when there is neither a username nor a password
that decodes. -/
def withoutCredentials (url : Url) : Url :=
  match url.authority with
  | none => url
  | some a =>
    match decodedText? a.username with
    | none => url
    | some user =>
      let password := if a.password.isEmpty then none else decodedText? a.password
      if user.isEmpty && password.isNone then url
      else { url with authority := some { a with username := "", password := "" } }

/-- Whether a byte may stand in the authority of a request line: letters, digits and
``!$&'()*+,-.:;=@[]_~``. -/
def uriAuthorityByte (b : UInt8) : Bool :=
  (48 ≤ b && b ≤ 57) || (65 ≤ b && b ≤ 90) || (97 ≤ b && b ≤ 122) ||
    "!$&\x27()*+,-.:;=@[]_~".toUTF8.toList.contains b

/-- Reads an authority byte by byte: `%` is allowed in the userinfo only, that is when an `@`
follows it, and every other byte must be an authority byte. -/
def authorityBytesOk : List UInt8 → Bool → Bool
  | [], pendingPercent => !pendingPercent
  | b :: rest, pendingPercent =>
    if b = 37 then authorityBytesOk rest true
    else if b = 64 then authorityBytesOk rest false
    else uriAuthorityByte b && authorityBytesOk rest pendingPercent

/-- Whether the URL's authority can be carried by a request line. -/
def requestAuthorityOk (url : Url) : Bool :=
  match url.authority with
  | some a => authorityBytesOk a.text.toUTF8.toList false
  | none => true

/-- Whether a response status is a success (2xx). -/
def isSuccess (status : Nat) : Bool := 200 ≤ status && status < 300

/-- The checks of a GET before anything is sent: the URL it goes to, without its credentials,
or why it is refused. -/
def prepare (url : Url) (header : String) : Except SendError Url :=
  if !url.hasHost then .error (.builder (some url))
  else
    let url := withoutCredentials url
    if !validHeaderValue header then .error (.builder none)
    else if url.scheme != "http" && url.scheme != "https" then .error (.builder (some url))
    else if !requestAuthorityOk url then .error (.builder (some url))
    else .ok url

/-- Sends a GET with the header over the transport, after the checks: the next state, the time
the exchange took, and the response or why there is none. -/
def get (t : Transport τ) (st : τ) (url : Url) (header : String) :
    τ × Duration × Except SendError Response :=
  match prepare url header with
  | .error e => (st, ⟨0⟩, .error e)
  | .ok url =>
    match t.deliver st url header with
    | (next, ⟨some response, took⟩) => (next, took, .ok response)
    | (next, ⟨none, took⟩) => (next, took, .error (.sending url))

end WriteAccess.Http
