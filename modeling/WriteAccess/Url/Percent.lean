/-!
# Percent-encoding

A URL carries arbitrary text by writing some bytes of its UTF-8 form as `%` and two upper-case
hex digits. Which bytes are written that way depends on the part of the URL: each part has an
encode set, and every set contains the C0 controls, DEL and every byte of a non-ASCII character.
The sets grow from `controls` (opaque paths and opaque hosts) through `fragment` and `path` to
`userinfo`; queries use `query`, or `specialQuery` (which adds the apostrophe) under a special
scheme.

Decoding turns every `%` followed by two hex digits back into its byte and leaves every other
`%` as it is.
-/

namespace WriteAccess.Url

/-- The sets of ASCII characters a URL part writes percent-encoded, beside the controls. -/
inductive EncodeSet where
  | controls
  | fragment
  | query
  | specialQuery
  | path
  | userinfo
  deriving DecidableEq, Repr

namespace EncodeSet

/-- The printable ASCII characters a set adds to the controls. -/
def extra : EncodeSet → List Char
  | .controls => []
  | .fragment => [' ', '"', '<', '>', '`']
  | .query => [' ', '"', '#', '<', '>']
  | .specialQuery => [' ', '"', '#', '<', '>', '\'']
  | .path => [' ', '"', '<', '>', '`', '#', '?', '{', '}']
  | .userinfo =>
    [' ', '"', '<', '>', '`', '#', '?', '{', '}', '/', ':', ';', '=', '@', '[', '\\', ']', '^',
      '|']

/-- Whether a byte is written percent-encoded: a control, DEL, a byte of a non-ASCII character,
or a character of the set. -/
def containsByte (set : EncodeSet) (b : UInt8) : Bool :=
  b < 0x20 || b ≥ 0x7F || set.extra.contains (Char.ofNat b.toNat)

end EncodeSet

/-- An upper-case hex digit. -/
def hexDigit (n : Nat) : Char :=
  if n < 10 then Char.ofNat (48 + n) else Char.ofNat (55 + n)

/-- A byte written as `%` and two upper-case hex digits. -/
def percentByte (b : UInt8) : String :=
  String.ofList ['%', hexDigit (b.toNat / 16), hexDigit (b.toNat % 16)]

/-- One byte, written plainly unless the set holds it. -/
def encodeByte (set : EncodeSet) (b : UInt8) : String :=
  if set.containsByte b then percentByte b else String.singleton (Char.ofNat b.toNat)

/-- A character, each byte of its UTF-8 form encoded under the set. -/
def encodeChar (set : EncodeSet) (c : Char) : String :=
  String.join ((String.utf8EncodeChar c).map (encodeByte set))

/-- A list of characters encoded under the set. -/
def encodeChars (set : EncodeSet) (cs : List Char) : String :=
  String.join (cs.map (encodeChar set))

/-- The value of a hex digit, either case. -/
def hexValue? (c : Char) : Option Nat :=
  if '0' ≤ c ∧ c ≤ '9' then some (c.toNat - 48)
  else if 'a' ≤ c ∧ c ≤ 'f' then some (c.toNat - 87)
  else if 'A' ≤ c ∧ c ≤ 'F' then some (c.toNat - 55)
  else none

/-- The bytes of a UTF-8 text with every `%XX` turned into its byte. -/
def decodeBytes : List UInt8 → List UInt8
  | [] => []
  | [b] => [b]
  | [b, c] => [b, c]
  | b :: h :: l :: tail =>
    if b == 0x25 then
      match hexValue? (Char.ofNat h.toNat), hexValue? (Char.ofNat l.toNat) with
      | some x, some y => UInt8.ofNat (x * 16 + y) :: decodeBytes tail
      | _, _ => b :: decodeBytes (h :: l :: tail)
    else b :: decodeBytes (h :: l :: tail)
termination_by bs => bs.length

/-- The bytes of a text with every `%XX` turned into its byte. -/
def decodeText (s : String) : List UInt8 :=
  decodeBytes s.toUTF8.toList

example : encodeChars .path "a b/é".toList = "a%20b/%C3%A9" := by decide

end WriteAccess.Url
