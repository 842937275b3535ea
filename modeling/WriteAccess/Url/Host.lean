import WriteAccess.Url.Idna
import WriteAccess.Url.Percent

/-!
# Hosts

The host of a URL: a domain name, an IPv4 address, an IPv6 address, an opaque host (the host of
a scheme that is not special, kept as written with its controls encoded) or the empty host.

Under a special scheme the host text is percent-decoded and mapped to an ASCII domain name; a
name whose last label is a number is read as an IPv4 address, whose parts may be decimal, octal
(a leading `0`) or hex (a leading `0x`), and whose last part fills the bytes the others leave.
A host in brackets is an IPv6 address: eight 16-bit pieces, with `::` standing for a run of
zeros and the last two pieces optionally written as a dotted IPv4 address.

An IPv6 address is written back in lower-case hex, with the first longest run of two or more
zero pieces written as `::`.
-/

namespace WriteAccess.Url

/-! ## Parse errors

Why a text is not a URL. Each reason has one fixed wording, which is what a caller shows.
-/

/-- Why a text is not a URL. -/
inductive ParseError where
  | emptyHost
  | idnaError
  | invalidPort
  | invalidIpv4Address
  | invalidIpv6Address
  | invalidDomainCharacter
  | relativeUrlWithoutBase
  | relativeUrlWithCannotBeABaseBase
  deriving DecidableEq, Repr

/-- The wording of a parse error. -/
def ParseError.message : ParseError → String
  | .emptyHost => "empty host"
  | .idnaError => "invalid international domain name"
  | .invalidPort => "invalid port number"
  | .invalidIpv4Address => "invalid IPv4 address"
  | .invalidIpv6Address => "invalid IPv6 address"
  | .invalidDomainCharacter => "invalid domain character"
  | .relativeUrlWithoutBase => "relative URL without a base"
  | .relativeUrlWithCannotBeABaseBase => "relative URL with a cannot-be-a-base base"

/-! ## Hosts -/

/-- The host of a URL. -/
inductive Host where
  | domain (name : String)
  | ipv4 (address : Nat)
  | ipv6 (pieces : List Nat)
  | verbatim (text : String)
  | empty
  deriving DecidableEq, Repr

/-! ## IPv4 -/

/-- The value of a digit in a radix of at most 16. -/
def digitIn (radix : Nat) (c : Char) : Option Nat :=
  match hexValue? c with
  | some d => if d < radix then some d else none
  | none => none

/-- The value of a numeral in a radix; `none` when a character is not a digit. -/
def numeralValue (radix : Nat) (cs : List Char) : Option Nat :=
  cs.foldl (fun acc c => acc.bind fun n => (digitIn radix c).map (n * radix + ·)) (some 0)

/-- The largest value of 32 bits. -/
def u32Max : Nat := 0xFFFFFFFF

/-- One part of an IPv4 address: `none` when it is not a number, `some none` when it is a
number past 32 bits, `some (some n)` otherwise. -/
def ipv4Number (part : List Char) : Option (Option Nat) :=
  if part.isEmpty then none
  else
    let (radix, digits) :=
      match part with
      | '0' :: 'x' :: rest => (16, rest)
      | '0' :: 'X' :: rest => (16, rest)
      | '0' :: rest => if rest.isEmpty then (10, part) else (8, rest)
      | _ => (10, part)
    if digits.isEmpty then some (some 0)
    else
      match numeralValue radix digits with
      | none => none
      | some n => if n > u32Max then some none else some (some n)

/-- The dot-separated parts of a text. -/
def dotParts (s : String) : List (List Char) := s.toList.splitOn '.'

/-- Whether a domain name's last label (or the one before a final empty label) is a number, so
that the name is read as an IPv4 address. -/
def endsInNumber (domain : String) : Bool :=
  let parts := (dotParts domain).reverse
  let last? :=
    match parts with
    | [] :: before :: _ => some before
    | [] :: [] => none
    | last :: _ => some last
    | [] => none
  match last? with
  | none => false
  | some last =>
    (!last.isEmpty && last.all Char.isDigit) || (ipv4Number last).isSome

/-- The numbers of the parts of an IPv4 address; `none` if one is not a number or is too large. -/
def ipv4Numbers : List (List Char) → Option (List Nat)
  | [] => some []
  | part :: rest =>
    match ipv4Number part, ipv4Numbers rest with
    | some (some n), some ns => some (n :: ns)
    | _, _ => none

/-- Reads an IPv4 address written as a domain name. -/
def parseIpv4 (domain : String) : Except ParseError Nat :=
  let parts := dotParts domain
  let parts := if parts.getLast? = some [] then parts.dropLast else parts
  if parts.length > 4 then .error .invalidIpv4Address
  else
    match ipv4Numbers parts with
    | none => .error .invalidIpv4Address
    | some numbers =>
      match numbers.getLast? with
      | none => .error .invalidIpv4Address
      | some last =>
        let front := numbers.dropLast
        if last > u32Max / Nat.pow 256 front.length then .error .invalidIpv4Address
        else if front.any (· > 255) then .error .invalidIpv4Address
        else
          .ok (last + (front.zipIdx.map fun (n, i) => n * Nat.pow 256 (3 - i)).foldr (· + ·) 0)

/-- An IPv4 address in dotted decimal. -/
def ipv4Text (address : Nat) : String :=
  ".".intercalate
    ([address / Nat.pow 2 24 % 256, address / Nat.pow 2 16 % 256, address / Nat.pow 2 8 % 256,
      address % 256].map toString)

/-! ## IPv6 -/

/-- Reads up to `count` hex digits onto `value`, giving the value, the number read and the rest. -/
def readHexPiece : Nat → Nat → Nat → List Char → Nat × Nat × List Char
  | 0, value, read, cs => (value, read, cs)
  | count + 1, value, read, c :: rest =>
    match hexValue? c with
    | some d => readHexPiece count (value * 16 + d) (read + 1) rest
    | none => (value, read, c :: rest)
  | _ + 1, value, read, [] => (value, read, [])

/-- Reads a decimal part of a dotted address inside an IPv6 address: no leading zero, at most
255, at least one digit. Gives the value and the rest. -/
def readIpv4Piece : Option Nat → List Char → Except ParseError (Nat × List Char)
  | acc, c :: rest =>
    if c.isDigit then
      let d := c.toNat - 48
      match acc with
      | none => readIpv4Piece (some d) rest
      | some 0 => .error .invalidIpv6Address
      | some v => if v * 10 + d > 255 then .error .invalidIpv6Address
                  else readIpv4Piece (some (v * 10 + d)) rest
    else
      match acc with
      | some v => .ok (v, c :: rest)
      | none => .error .invalidIpv6Address
  | acc, [] =>
    match acc with
    | some v => .ok (v, [])
    | none => .error .invalidIpv6Address

/-- The registers of the IPv6 reader: the pieces, the next piece's index and where `::` stood. -/
structure Ipv6State where
  pieces : List Nat
  index : Nat
  compress : Option Nat

/-- Reads the dotted IPv4 address that ends an IPv6 address; `seen` parts are read. -/
def readIpv4Tail : Nat → Nat → Ipv6State → List Char → Except ParseError Ipv6State
  | 0, _, _, _ => .error .invalidIpv6Address
  | _ + 1, seen, st, [] => if seen = 4 then .ok st else .error .invalidIpv6Address
  | fuel + 1, seen, st, c :: rest => do
    let input ←
      if seen > 0 then
        if seen < 4 && c = '.' then pure rest else .error .invalidIpv6Address
      else pure (c :: rest)
    let (v, after) ← readIpv4Piece none input
    let piece := st.pieces.getD st.index 0 * 0x100 + v
    let st := { st with pieces := st.pieces.set st.index piece }
    let seen := seen + 1
    let st := if seen = 2 || seen = 4 then { st with index := st.index + 1 } else st
    readIpv4Tail fuel seen st after

/-- Reads the pieces of an IPv6 address. -/
def readIpv6Pieces : Nat → Ipv6State → List Char → Except ParseError Ipv6State
  | 0, _, _ => .error .invalidIpv6Address
  | _ + 1, st, [] => .ok st
  | fuel + 1, st, c :: rest =>
    if st.index = 8 then .error .invalidIpv6Address
    else if c = ':' then
      if st.compress.isSome then .error .invalidIpv6Address
      else readIpv6Pieces fuel { st with index := st.index + 1, compress := some (st.index + 1) } rest
    else
      let (value, read, after) := readHexPiece 4 0 0 (c :: rest)
      match after with
      | '.' :: _ =>
        if read = 0 || st.index > 6 then .error .invalidIpv6Address
        else readIpv4Tail (c :: rest).length.succ 0 st (c :: rest)
      | ':' :: [] => .error .invalidIpv6Address
      | ':' :: more =>
        readIpv6Pieces fuel
          { st with pieces := st.pieces.set st.index value, index := st.index + 1 } more
      | [] =>
        readIpv6Pieces fuel
          { st with pieces := st.pieces.set st.index value, index := st.index + 1 } []
      | _ => .error .invalidIpv6Address

/-- Moves the pieces after the `::` to the end, `swaps` of them, from the last one back. -/
def spreadPieces (compress : Nat) : Nat → Nat → List Nat → List Nat
  | 0, _, pieces => pieces
  | swaps + 1, index, pieces =>
    let j := compress + swaps
    let a := pieces.getD index 0
    let b := pieces.getD j 0
    spreadPieces compress swaps (index - 1) ((pieces.set index b).set j a)

/-- Reads an IPv6 address, the text between the brackets. -/
def parseIpv6 (cs : List Char) : Except ParseError (List Nat) := do
  if cs.length < 2 then throw .invalidIpv6Address
  let zeros := List.replicate 8 0
  let (start, rest) ←
    match cs with
    | ':' :: ':' :: more => pure ({ pieces := zeros, index := 1, compress := some 1 }, more)
    | ':' :: _ => throw .invalidIpv6Address
    | _ => pure ({ pieces := zeros, index := 0, compress := none }, cs)
  let st ← readIpv6Pieces (cs.length + 1) start rest
  match st.compress with
  | some c => pure (spreadPieces c (st.index - c) 7 st.pieces)
  | none => if st.index = 8 then pure st.pieces else throw .invalidIpv6Address

/-- The first longest run of zero pieces, as its start and length. -/
def longestZeroRun (pieces : List Nat) : Nat × Nat :=
  let step := fun (acc : (Nat × Nat) × Option Nat) (ip : Nat × Nat) =>
    let ((best, bestLen), start) := acc
    let (p, i) := ip
    if p = 0 then
      let s := start.getD i
      let len := i + 1 - s
      (if len > bestLen then (s, len) else (best, bestLen), some s)
    else ((best, bestLen), none)
  ((pieces.zipIdx).foldl step ((0, 0), none)).1

/-- An IPv6 address in lower-case hex, its first longest run of two or more zero pieces as
`::`. -/
def ipv6Text (pieces : List Nat) : String :=
  let hex := fun (p : Nat) => String.ofList (Nat.toDigits 16 p)
  let (start, len) := longestZeroRun pieces
  if len < 2 then ":".intercalate (pieces.map hex)
  else
    ":".intercalate ((pieces.take start).map hex) ++ "::" ++
      ":".intercalate ((pieces.drop (start + len)).map hex)

/-! ## Parsing and writing hosts -/

/-- Reads the text of an IPv6 host in brackets. -/
def bracketed (cs : List Char) : Except ParseError Host :=
  if cs.getLast? = some ']' then
    (parseIpv6 ((cs.drop 1).dropLast)).map Host.ipv6
  else .error .invalidIpv6Address

/-- Reads the host of a URL under a special scheme. -/
def Host.parseSpecial (cs : List Char) : Except ParseError Host :=
  if cs.head? = some '[' then bracketed cs
  else
    match Idna.domainToAscii (decodeText (String.ofList cs)) with
    | none => .error .idnaError
    | some "" => .error .emptyHost
    | some name =>
      if endsInNumber name then (parseIpv4 name).map Host.ipv4 else .ok (.domain name)

/-- Whether a character cannot stand in an opaque host. -/
def forbiddenInVerbatim (c : Char) : Bool :=
  "\x00\t\n\r #/:<>?@[\\]^|".toList.contains c

/-- Reads the host of a URL under a scheme that is not special. -/
def Host.parseVerbatim (cs : List Char) : Except ParseError Host :=
  if cs.head? = some '[' then bracketed cs
  else if cs.any forbiddenInVerbatim then .error .invalidDomainCharacter
  else if cs.isEmpty then .ok .empty
  else .ok (.verbatim (encodeChars .controls cs))

/-- How a host is written in a URL. -/
def Host.text : Host → String
  | .domain name => name
  | .ipv4 address => ipv4Text address
  | .ipv6 pieces => "[" ++ ipv6Text pieces ++ "]"
  | .verbatim text => text
  | .empty => ""

end WriteAccess.Url
