import WriteAccess.Json.Shape

/-!
# Reading JSON text

Reads a UTF-8 JSON text byte by byte, checking it against a `Shape` as it goes, and reports the
first fault with the line and column where it was noticed.

The rules a reader has to choose, and the choices made here:

* Blanks are space, tab, line feed and carriage return. A byte order mark is not a blank.
* A position is a line (from one) and a column counted in bytes. A fault found by looking at the
  next byte is reported one byte past the cursor (at the end of the text at most); a fault found
  after consuming a byte is reported at the cursor.
* A fault of kind or content (a string where a sequence belongs, a missing field) is noticed by the
  shape, which knows no position; it takes the position the reader has reached when the fault
  leaves the value being read. A container is closed even after such a fault inside it, so the
  closing bracket counts.
* Integers are kept exactly while they fit 64 bits (63 bits and a sign when negative); longer
  ones, and all numbers with a fraction or an exponent, become binary64 floats. A float is built
  as a table of powers of ten builds it: the digits that fit 64 bits, rounded, then multiplied or
  divided once by the nearest binary64 power of ten (or divided by `10^308` repeatedly for
  powers beyond it). `-0` is the float negative zero.
* Containers nest at most 127 deep.
* Values under keys that no field names are skipped with a lighter check: their strings are not
  decoded, their numbers are not evaluated, and a comma before a closing bracket is reported as a
  missing value.
-/

namespace WriteAccess.Json

open WriteAccess.Numeric

/-- A step of reading a text: from a byte index to a result and the next index. A step that
fails keeps the index it reached. -/
abbrev Scan := ExceptT Error (StateM Nat)

namespace Reader

/-! ## Positions and faults -/

/-- Line and column of byte index `i`: one more than the line feeds before it, and the bytes
since the last of them. -/
def positionAt (t : ByteArray) (i : Nat) : Position :=
  let before := (t.extract 0 i).toList
  ⟨1 + before.count 10, (before.reverse.takeWhile (· != 10)).length⟩

/-- A syntax fault reported at byte index `i`. -/
def errorAt (t : ByteArray) (i : Nat) (code : SyntaxCode) : Error :=
  ⟨.malformed code, some (positionAt t i)⟩

/-- Fails with a syntax fault at the cursor. -/
def failHere (t : ByteArray) (code : SyntaxCode) : Scan α := do
  throw (errorAt t (← get) code)

/-- Fails with a syntax fault at the byte after the cursor, or at the end of the text. -/
def failPeeked (t : ByteArray) (code : SyntaxCode) : Scan α := do
  throw (errorAt t (min t.size ((← get) + 1)) code)

/-- A fault without a position, given the cursor's position. -/
def fixPosition (t : ByteArray) (e : Error) : Scan Error := do
  match e.position with
  | some _ => pure e
  | none => pure { e with position := some (positionAt t (← get)) }

/-- Runs a step, giving the cursor's position to a fault that has none. -/
def fixing (t : ByteArray) (x : Scan α) : Scan α :=
  tryCatch x fun e => do throw (← fixPosition t e)

/-- The outcome of a step as a value, the step's index kept either way. -/
def observe (x : Scan α) : Scan (Except Error α) :=
  tryCatch (x >>= fun a => pure (.ok a)) fun e => pure (.error e)

/-- Runs the body of a container, then its closing step whatever became of the body; a fault of
the body comes before one of the closing. -/
def thenClose (body : Scan α) (close : Scan Unit) : Scan α := do
  let r ← observe body
  let c ← observe close
  match r, c with
  | .ok a, .ok _ => pure a
  | .error e, _ => throw e
  | .ok _, .error e => throw e

/-! ## Bytes -/

/-- The byte at index `i` as a character; bytes from 0x80 become U+0080 to U+00FF, which no rule
of the syntax names. -/
def byteAt (t : ByteArray) (i : Nat) : Option Char :=
  (t[i]?).map fun b => Char.ofNat b.toNat

/-- The byte at the cursor. -/
def peek (t : ByteArray) : Scan (Option Char) := do
  return byteAt t (← get)

/-- The byte at the cursor, or NUL at the end. -/
def peekOrNul (t : ByteArray) : Scan Char := do
  return (byteAt t (← get)).getD '\x00'

/-- Moves the cursor one byte on. -/
def advance : Scan Unit := modify (· + 1)

/-- The byte at the cursor, moving past it. -/
def next (t : ByteArray) : Scan (Option Char) := do
  let c ← peek t
  if c.isSome then advance
  return c

/-- Whether a byte is a blank between tokens. -/
def isBlankByte (c : Char) : Bool := c == ' ' || c == '\n' || c == '\t' || c == '\r'

/-- Whether a byte is a decimal digit. -/
def isDigit (c : Char) : Bool := '0' ≤ c && c ≤ '9'

/-- The value of a decimal digit. -/
def digitValue (c : Char) : Nat := c.toNat - '0'.toNat

/-- The first index from `i` on that holds no blank. -/
def blankEnd (t : ByteArray) (i : Nat) : Nat :=
  if _h : i < t.size then
    if isBlankByte (Char.ofNat t[i].toNat) then blankEnd t (i + 1) else i
  else i
termination_by t.size - i

/-- Skips blanks, showing the byte after them. -/
def skipBlank (t : ByteArray) : Scan (Option Char) := do
  let i := blankEnd t (← get)
  set i
  return byteAt t i

/-- Reads the rest of a literal word (`null`, `true`, `false`) after its first letter. -/
def parseIdent (t : ByteArray) : List Char → Scan Unit
  | [] => pure ()
  | c :: rest => do
    match ← next t with
    | none => failHere t .eofWhileParsingValue
    | some d => if d == c then parseIdent t rest else failHere t .expectedSomeIdent

/-- Skips decimal digits. -/
def skipDigits (t : ByteArray) : Nat → Scan Unit
  | 0 => pure ()
  | fuel + 1 => do
    if isDigit (← peekOrNul t) then
      advance
      skipDigits t fuel

/-! ## Numbers -/

/-- The greatest integer of 64 bits without sign. -/
def u64Max : Nat := Nat.pow 2 64 - 1

/-- The greatest integer of 32 bits with sign. -/
def i32Max : Nat := Nat.pow 2 31 - 1

/-- Whether `acc · 10 + digit` would pass `limit`. -/
def overflows (acc digit limit : Nat) : Bool :=
  limit / 10 ≤ acc && (limit / 10 < acc || limit % 10 < digit)

/-- An exponent held to the range of 32-bit integers. -/
def saturate (e : Int) : Int := max (-(i32Max : Int) - 1) (min e i32Max)

/-- `f · 10^exponent` as a table of powers of ten up to `10^308` computes it; `none` when the
product passes the finite range. -/
def scalePow10 (f : Binary64) (exponent : Int) : Nat → Option Binary64
  | 0 => some f
  | fuel + 1 =>
    let k := exponent.natAbs
    if k ≤ 308 then
      (Binary64.pow10 k).bind fun p => if 0 ≤ exponent then f.mul p else f.div p
    else if f.isZero then some f
    else if 0 ≤ exponent then none
    else
      match (Binary64.pow10 308).bind f.div with
      | some g => scalePow10 g (exponent + 308) fuel
      | none => none

/-- The float `±significand · 10^exponent`, or a fault when it passes the finite range. -/
def floatFromParts (t : ByteArray) (positive : Bool) (significand : Nat) (exponent : Int) :
    Scan Number :=
  match (Binary64.ofNat significand).bind (scalePow10 · exponent 8) with
  | some f => pure (.float (if positive then f else f.neg))
  | none => failHere t .numberOutOfRange

/-- The number of an integer that fits: natural when positive, a negative integer down to
`-2^63`, and otherwise (and for `-0`) a negative float. -/
def integerNumber (positive : Bool) (significand : Nat) : Number :=
  if positive then .natural significand
  else if significand = 0 ∨ Nat.pow 2 63 < significand then
    .float ((Binary64.ofNat significand).getD (Binary64.zero false)).neg
  else .negative (-(significand : Int))

/-- Digits of an exponent: its value, or `none` once it would pass 32 bits. -/
def exponentDigits (t : ByteArray) (acc : Nat) : Nat → Scan (Option Nat)
  | 0 => pure (some acc)
  | fuel + 1 => do
    let c ← peekOrNul t
    if isDigit c then
      advance
      if overflows acc (digitValue c) i32Max then pure none
      else exponentDigits t (acc * 10 + digitValue c) fuel
    else pure (some acc)

/-- The digits of an exponent after its sign, applied to `significand · 10^start`; the exponent
adds when `positiveExp`. -/
def exponentRest (t : ByteArray) (positive : Bool) (significand : Nat) (start : Int)
    (positiveExp : Bool) : Scan Number := do
  match ← next t with
  | none => failHere t .eofWhileParsingValue
  | some c =>
    if !isDigit c then failHere t .invalidNumber
    else
      match ← exponentDigits t (digitValue c) t.size with
      | none =>
        -- An exponent past 32 bits: zero, or out of range for a nonzero number made larger.
        if significand ≠ 0 && positiveExp then failHere t .numberOutOfRange
        else do
          skipDigits t t.size
          pure (.float (Binary64.zero !positive))
      | some e =>
        let final := if positiveExp then saturate (start + e) else saturate (start - e)
        floatFromParts t positive significand final

/-- The exponent part of a number, after `e` or `E`, applied to `significand · 10^start`. -/
def parseExponent (t : ByteArray) (positive : Bool) (significand : Nat) (start : Int) :
    Scan Number := do
  advance
  match ← peekOrNul t with
  | '+' => advance; exponentRest t positive significand start true
  | '-' => advance; exponentRest t positive significand start false
  | _ => exponentRest t positive significand start true

/-- Digits after a decimal point: the significand grown by them and how many were taken, and
whether one more would have passed 64 bits (that digit is then not taken). -/
def fractionDigits (t : ByteArray) (acc count : Nat) : Nat → Scan (Nat × Nat × Bool)
  | 0 => pure (acc, count, false)
  | fuel + 1 => do
    let c ← peekOrNul t
    if isDigit c then
      if overflows acc (digitValue c) u64Max then pure (acc, count, true)
      else do
        advance
        fractionDigits t (acc * 10 + digitValue c) (count + 1) fuel
    else pure (acc, count, false)

/-- An exponent after the digits of a number, or its end: the float `±significand · 10^e`. -/
def exponentOrEnd (t : ByteArray) (positive : Bool) (significand : Nat) (e : Int) :
    Scan Number := do
  match ← peekOrNul t with
  | 'e' | 'E' => parseExponent t positive significand e
  | _ => floatFromParts t positive significand e

/-- The rest of a number after its decimal point: its fraction, then an optional exponent. -/
def parseDecimal (t : ByteArray) (positive : Bool) (significand : Nat) (before : Int) :
    Scan Number := do
  advance
  let (sig, count, overflowed) ← fractionDigits t significand 0 t.size
  let e := before - count
  if overflowed then
    skipDigits t t.size
    exponentOrEnd t positive sig e
  else if count = 0 then
    match ← peek t with
    | some _ => failPeeked t .invalidNumber
    | none => failPeeked t .eofWhileParsingValue
  else exponentOrEnd t positive sig e

/-- The rest of an integer too long for 64 bits: each further digit raises the exponent. -/
def parseLongInteger (t : ByteArray) (positive : Bool) (significand : Nat) (exponent : Nat) :
    Nat → Scan Number
  | 0 => floatFromParts t positive significand exponent
  | fuel + 1 => do
    match ← peekOrNul t with
    | '.' => parseDecimal t positive significand exponent
    | 'e' | 'E' => parseExponent t positive significand exponent
    | c =>
      if isDigit c then do
        advance
        parseLongInteger t positive significand (exponent + 1) fuel
      else floatFromParts t positive significand exponent

/-- What follows the integer digits of a number: a fraction, an exponent, or nothing. -/
def parseNumber (t : ByteArray) (positive : Bool) (significand : Nat) : Scan Number := do
  match ← peekOrNul t with
  | '.' => parseDecimal t positive significand 0
  | 'e' | 'E' => parseExponent t positive significand 0
  | _ => pure (integerNumber positive significand)

/-- Integer digits after the first nonzero one. -/
def integerDigits (t : ByteArray) (positive : Bool) (acc : Nat) : Nat → Scan Number
  | 0 => parseNumber t positive acc
  | fuel + 1 => do
    let c ← peekOrNul t
    if isDigit c then
      if overflows acc (digitValue c) u64Max then parseLongInteger t positive acc 0 t.size
      else do
        advance
        integerDigits t positive (acc * 10 + digitValue c) fuel
    else parseNumber t positive acc

/-- A number, its sign already read. -/
def parseInteger (t : ByteArray) (positive : Bool) : Scan Number := do
  match ← next t with
  | none => failHere t .eofWhileParsingValue
  | some '0' =>
    if isDigit (← peekOrNul t) then failPeeked t .invalidNumber
    else parseNumber t positive 0
  | some c =>
    if isDigit c then integerDigits t positive (digitValue c) t.size
    else failHere t .invalidNumber

/-- What a number was found to be. -/
def Number.unexpected : Number → Unexpected
  | .natural n => .unsigned n
  | .negative n => .signed n
  | .float x => .float x

/-! ## Strings -/

/-- The byte a one-letter escape stands for. -/
def simpleEscape : Char → Option UInt8
  | '"' => some 34
  | '\\' => some 92
  | '/' => some 47
  | 'b' => some 8
  | 'f' => some 12
  | 'n' => some 10
  | 'r' => some 13
  | 't' => some 9
  | _ => none

/-- The value of a hex digit. -/
def hexValue (c : Char) : Option Nat :=
  if isDigit c then some (digitValue c)
  else if 'a' ≤ c && c ≤ 'f' then some (c.toNat - 'a'.toNat + 10)
  else if 'A' ≤ c && c ≤ 'F' then some (c.toNat - 'A'.toNat + 10)
  else none

/-- Four hex digits from index `j`: their value and the index after them. A fault is a code and
the index it is reported at. -/
def hexQuad (t : ByteArray) (j : Nat) : Except (SyntaxCode × Nat) (Nat × Nat) :=
  if j + 4 ≤ t.size then
    let digits := [j, j + 1, j + 2, j + 3].map fun k => (byteAt t k).bind hexValue
    match digits with
    | [some a, some b, some c, some d] => .ok (((a * 16 + b) * 16 + c) * 16 + d, j + 4)
    | _ => .error (.invalidEscape, j + 4)
  else .error (.eofWhileParsingString, t.size)

/-- The UTF-8 bytes of a code point. -/
def utf8Bytes (n : Nat) : ByteArray := (String.singleton (Char.ofNat n)).toUTF8

/-- A `\u` escape from index `j` (after the `u`), decoded: a trailing surrogate alone is refused,
and a leading one must be followed at once by an escaped trailing one. -/
def unicodeEscape (t : ByteArray) (j : Nat) : Except (SyntaxCode × Nat) (ByteArray × Nat) := do
  let (n, j1) ← hexQuad t j
  if 0xDC00 ≤ n ∧ n ≤ 0xDFFF then throw (.loneLeadingSurrogateInHexEscape, j1)
  if n < 0xD800 ∨ 0xDBFF < n then return (utf8Bytes n, j1)
  match byteAt t j1 with
  | none => throw (.eofWhileParsingString, j1)
  | some '\\' =>
    match byteAt t (j1 + 1) with
    | none => throw (.eofWhileParsingString, j1 + 1)
    | some 'u' =>
      let (n2, j2) ← hexQuad t (j1 + 2)
      if n2 < 0xDC00 ∨ 0xDFFF < n2 then throw (.loneLeadingSurrogateInHexEscape, j2)
      return (utf8Bytes ((n - 0xD800) * 0x400 + (n2 - 0xDC00) + 0x10000), j2)
    | some _ => throw (.unexpectedEndOfHexEscape, j1 + 2)
  | some _ => throw (.unexpectedEndOfHexEscape, j1 + 1)

/-- Scans a string body from index `i`, after its opening quote, to the index after its closing
quote. When `keep` holds, the escapes are decoded into the bytes gathered; otherwise only their
form is checked and nothing is gathered. -/
def scanString (t : ByteArray) (keep : Bool) :
    Nat → Nat → ByteArray → Except (SyntaxCode × Nat) (ByteArray × Nat)
  | 0, _, _ => .error (.eofWhileParsingString, t.size)
  | fuel + 1, i, acc =>
    match byteAt t i with
    | none => .error (.eofWhileParsingString, t.size)
    | some '"' => .ok (acc, i + 1)
    | some '\\' =>
      match byteAt t (i + 1) with
      | none => .error (.eofWhileParsingString, t.size)
      | some c =>
        match simpleEscape c with
        | some b => scanString t keep fuel (i + 2) (if keep then acc.push b else acc)
        | none =>
          if c == 'u' then
            if keep then
              match unicodeEscape t (i + 2) with
              | .ok (bytes, j) => scanString t keep fuel j (acc ++ bytes)
              | .error e => .error e
            else
              match hexQuad t (i + 2) with
              | .ok (_, j) => scanString t keep fuel j acc
              | .error e => .error e
          else .error (.invalidEscape, i + 2)
    | some c =>
      if c.toNat < 0x20 then
        .error (.controlCharacterWhileParsingString, if keep then i + 1 else i)
      else scanString t keep fuel (i + 1) (if keep then acc.push c.toNat.toUInt8 else acc)

/-- A string after its opening quote, decoded. -/
def readString (t : ByteArray) : Scan String := do
  match scanString t true (t.size + 1) (← get) ByteArray.empty with
  | .ok (bytes, j) =>
    set j
    match String.fromUTF8? bytes with
    | some s => pure s
    | none => failHere t .invalidUnicodeCodePoint
  | .error (code, j) =>
    set j
    throw (errorAt t j code)

/-- A string after its opening quote, checked and skipped. -/
def ignoreString (t : ByteArray) : Scan Unit := do
  match scanString t false (t.size + 1) (← get) ByteArray.empty with
  | .ok (_, j) => set j
  | .error (code, j) =>
    set j
    throw (errorAt t j code)

/-! ## Skipping a value -/

/-- Skips the digits of an exponent after its sign. -/
def ignoreExponentRest (t : ByteArray) : Scan Unit := do
  let c := (← next t).getD '\x00'
  if !isDigit c then failHere t .invalidNumber
  skipDigits t t.size

/-- Skips an exponent after `e` or `E`. -/
def ignoreExponent (t : ByteArray) : Scan Unit := do
  advance
  match ← peekOrNul t with
  | '+' | '-' => advance; ignoreExponentRest t
  | _ => ignoreExponentRest t

/-- Skips a fraction after its decimal point, and an exponent. -/
def ignoreDecimal (t : ByteArray) : Scan Unit := do
  advance
  let start ← get
  skipDigits t t.size
  if (← get) = start then failPeeked t .invalidNumber
  match ← peekOrNul t with
  | 'e' | 'E' => ignoreExponent t
  | _ => pure ()

/-- Skips what follows the integer digits of a number: a fraction, an exponent, or nothing. -/
def ignoreNumberRest (t : ByteArray) : Scan Unit := do
  match ← peekOrNul t with
  | '.' => ignoreDecimal t
  | 'e' | 'E' => ignoreExponent t
  | _ => pure ()

/-- Skips a number, its sign already read. -/
def ignoreInteger (t : ByteArray) : Scan Unit := do
  match (← next t).getD '\x00' with
  | '0' =>
    if isDigit (← peekOrNul t) then failPeeked t .invalidNumber
    else ignoreNumberRest t
  | c =>
    if isDigit c then do
      skipDigits t t.size
      ignoreNumberRest t
    else failHere t .invalidNumber

/-- The fault of a missing closing bracket of an array (`[`) or an object (`{`). -/
def eofIn (frame : Char) : SyntaxCode :=
  if frame == '[' then .eofWhileParsingList else .eofWhileParsingObject

/-- The fault of a byte that neither separates nor closes in an array or an object. -/
def commaOrEndIn (frame : Char) : SyntaxCode :=
  if frame == '[' then .expectedListCommaOrEnd else .expectedObjectCommaOrEnd

mutual

/-- Skips one value. -/
def ignoreValue (t : ByteArray) : Nat → Scan Unit
  | 0 => failPeeked t .eofWhileParsingValue
  | fuel + 1 => do
    match ← skipBlank t with
    | none => failPeeked t .eofWhileParsingValue
    | some 'n' => advance; parseIdent t ['u', 'l', 'l']
    | some 't' => advance; parseIdent t ['r', 'u', 'e']
    | some 'f' => advance; parseIdent t ['a', 'l', 's', 'e']
    | some '-' => advance; ignoreInteger t
    | some '"' => advance; ignoreString t
    | some '[' => advance; ignoreSlots t fuel '[' false
    | some '\x7b' => advance; ignoreSlots t fuel '\x7b' false
    | some c => if isDigit c then ignoreInteger t else failPeeked t .expectedSomeValue

/-- Skips the rest of an array or object up to its closing bracket; `acceptComma` once a slot
has been skipped. -/
def ignoreSlots (t : ByteArray) : Nat → Char → Bool → Scan Unit
  | 0, frame, _ => failPeeked t (eofIn frame)
  | fuel + 1, frame, acceptComma => do
    match ← skipBlank t with
    | none => failPeeked t (eofIn frame)
    | some c =>
      if c == ',' && acceptComma then do
        advance
        ignoreSlot t fuel frame
        ignoreSlots t fuel frame true
      else if (c == ']' && frame == '[') || (c == '\x7d' && frame == '\x7b') then advance
      else if acceptComma then failPeeked t (commaOrEndIn frame)
      else do
        ignoreSlot t fuel frame
        ignoreSlots t fuel frame true

/-- Skips one element of an array, or one key, colon and value of an object. -/
def ignoreSlot (t : ByteArray) : Nat → Char → Scan Unit
  | 0, frame => failPeeked t (eofIn frame)
  | fuel + 1, frame => do
    if frame == '\x7b' then
      match ← skipBlank t with
      | some '"' => advance
      | some _ => failPeeked t .keyMustBeAString
      | none => failPeeked t .eofWhileParsingObject
      ignoreString t
      match ← skipBlank t with
      | some ':' => advance
      | some _ => failPeeked t .expectedColon
      | none => failPeeked t .eofWhileParsingObject
    ignoreValue t fuel

end

/-! ## Reading by shape -/

/-- What the value at the cursor is, read far enough to say so, as a fault of kind. -/
def invalidTypeHere (t : ByteArray) (expected : String) : Scan Error := do
  let found ← do
    match ← peekOrNul t with
    | 'n' => advance; parseIdent t ['u', 'l', 'l']; pure Unexpected.unit
    | 't' => advance; parseIdent t ['r', 'u', 'e']; pure (Unexpected.bool true)
    | 'f' => advance; parseIdent t ['a', 'l', 's', 'e']; pure (Unexpected.bool false)
    | '-' => advance; pure (Number.unexpected (← parseInteger t false))
    | '"' => advance; pure (Unexpected.str (← readString t))
    | '[' => pure Unexpected.seq
    | '\x7b' => pure Unexpected.map
    | c =>
      if isDigit c then pure (Number.unexpected (← parseInteger t true))
      else failPeeked t .expectedSomeValue
  pure ⟨.invalidType found expected, none⟩

/-- Whether an array has another element, after its first when `first` fails. -/
def hasNextElement (t : ByteArray) (first : Bool) : Scan Bool := do
  match ← skipBlank t with
  | none => failPeeked t .eofWhileParsingList
  | some ']' => pure false
  | some c =>
    if first then pure true
    else if c == ',' then do
      advance
      match ← skipBlank t with
      | some ']' => failPeeked t .trailingComma
      | some _ => pure true
      | none => failPeeked t .eofWhileParsingValue
    else failPeeked t .expectedListCommaOrEnd

/-- The next key of an object, or `none` at its closing brace. -/
def nextKey (t : ByteArray) (first : Bool) : Scan (Option String) := do
  let peeked ← do
    match ← skipBlank t with
    | some '\x7d' => return none
    | some ',' => if first then pure (some ',') else do advance; skipBlank t
    | some c => if first then pure (some c) else failPeeked t .expectedObjectCommaOrEnd
    | none => failPeeked t .eofWhileParsingObject
  match peeked with
  | some '"' => do advance; some <$> readString t
  | some '\x7d' => failPeeked t .trailingComma
  | some _ => failPeeked t .keyMustBeAString
  | none => failPeeked t .eofWhileParsingValue

/-- The colon after a key. -/
def objectColon (t : ByteArray) : Scan Unit := do
  match ← skipBlank t with
  | some ':' => advance
  | some _ => failPeeked t .expectedColon
  | none => failPeeked t .eofWhileParsingObject

/-- The closing bracket of an array. -/
def closeSeq (t : ByteArray) : Scan Unit := do
  match ← skipBlank t with
  | some ']' => advance
  | some ',' =>
    advance
    match ← skipBlank t with
    | some ']' => failPeeked t .trailingComma
    | _ => failPeeked t .trailingCharacters
  | some _ => failPeeked t .trailingCharacters
  | none => failPeeked t .eofWhileParsingList

/-- The closing brace of an object. -/
def closeMap (t : ByteArray) : Scan Unit := do
  match ← skipBlank t with
  | some '\x7d' => advance
  | some ',' => failPeeked t .trailingComma
  | some _ => failPeeked t .trailingCharacters
  | none => failPeeked t .eofWhileParsingObject

/-- Enters a container at the cursor when the nesting allows one more level. -/
def enter (t : ByteArray) (depth : Nat) : Scan Unit := do
  if depth ≤ 1 then failPeeked t .recursionLimitExceeded
  advance

mutual

/-- Reads any value. -/
def readAny (t : ByteArray) : Nat → Nat → Scan Value
  | 0, _ => failPeeked t .eofWhileParsingValue
  | fuel + 1, depth => fixing t do
    match ← skipBlank t with
    | none => failPeeked t .eofWhileParsingValue
    | some 'n' => advance; parseIdent t ['u', 'l', 'l']; pure .null
    | some 't' => advance; parseIdent t ['r', 'u', 'e']; pure (.bool true)
    | some 'f' => advance; parseIdent t ['a', 'l', 's', 'e']; pure (.bool false)
    | some '-' => advance; pure (.number (← parseInteger t false))
    | some '"' => advance; pure (.string (← readString t))
    | some '[' =>
      enter t depth
      thenClose (readAnyItems t fuel (depth - 1) true []) (closeSeq t)
    | some '\x7b' =>
      enter t depth
      thenClose (readAnyMembers t fuel (depth - 1) true []) (closeMap t)
    | some c =>
      if isDigit c then pure (.number (← parseInteger t true))
      else failPeeked t .expectedSomeValue

/-- The elements of an array of any values. -/
def readAnyItems (t : ByteArray) : Nat → Nat → Bool → List Value → Scan Value
  | 0, _, _, _ => failPeeked t .eofWhileParsingList
  | fuel + 1, depth, first, acc => do
    if ← hasNextElement t first then
      let v ← readAny t fuel depth
      readAnyItems t fuel depth false (v :: acc)
    else pure (.array acc.reverse)

/-- The members of an object of any values, kept as a sorted map. -/
def readAnyMembers (t : ByteArray) : Nat → Nat → Bool → List (String × Value) → Scan Value
  | 0, _, _, _ => failPeeked t .eofWhileParsingObject
  | fuel + 1, depth, first, acc => do
    match ← nextKey t first with
    | none => pure (.object acc)
    | some k =>
      objectColon t
      let v ← readAny t fuel depth
      readAnyMembers t fuel depth false (Value.insertMember k v acc)

/-- Reads a value of the given shape; `depth` more levels of nesting are allowed. -/
def readShape (t : ByteArray) : Nat → Nat → Shape → Scan Value
  | 0, _, _ => failPeeked t .eofWhileParsingValue
  | fuel + 1, depth, .any => readAny t fuel depth
  | _ + 1, _, .string => fixing t do
    match ← skipBlank t with
    | none => failPeeked t .eofWhileParsingValue
    | some '"' => advance; pure (.string (← readString t))
    | some _ => throw (← invalidTypeHere t Shape.string.expected)
  | _ + 1, _, .boolean => fixing t do
    match ← skipBlank t with
    | none => failPeeked t .eofWhileParsingValue
    | some 't' => advance; parseIdent t ['r', 'u', 'e']; pure (.bool true)
    | some 'f' => advance; parseIdent t ['a', 'l', 's', 'e']; pure (.bool false)
    | some _ => throw (← invalidTypeHere t Shape.boolean.expected)
  | fuel + 1, depth, .optional inner => do
    match ← skipBlank t with
    | some 'n' => advance; parseIdent t ['u', 'l', 'l']; pure .null
    | _ => readShape t fuel depth inner
  | fuel + 1, depth, .sequence item => fixing t do
    match ← skipBlank t with
    | none => failPeeked t .eofWhileParsingValue
    | some '[' =>
      enter t depth
      thenClose (readItems t fuel (depth - 1) item true []) (closeSeq t)
    | some _ => throw (← invalidTypeHere t (Shape.sequence item).expected)
  | fuel + 1, depth, .record name fields => fixing t do
    match ← skipBlank t with
    | none => failPeeked t .eofWhileParsingValue
    | some '[' =>
      enter t depth
      thenClose (readFieldElements t fuel (depth - 1) name fields.length fields 0 true [])
        (closeSeq t)
    | some '\x7b' =>
      enter t depth
      thenClose (readFieldMembers t fuel (depth - 1) fields true [] []) (closeMap t)
    | some _ => throw (← invalidTypeHere t ("struct " ++ name))

/-- The elements of an array, each of shape `item`. -/
def readItems (t : ByteArray) : Nat → Nat → Shape → Bool → List Value → Scan Value
  | 0, _, _, _, _ => failPeeked t .eofWhileParsingList
  | fuel + 1, depth, item, first, acc => do
    if ← hasNextElement t first then
      let v ← readShape t fuel depth item
      readItems t fuel depth item false (v :: acc)
    else pure (.array acc.reverse)

/-- A record written as an array: its elements matched to the fields in order; `i` is the
position of the next field, and a missing required field is reported at its position. -/
def readFieldElements (t : ByteArray) :
    Nat → Nat → String → Nat → List (String × Shape × Bool) → Nat → Bool →
      List (String × Value) → Scan Value
  | 0, _, _, _, _, _, _, _ => failPeeked t .eofWhileParsingList
  | _ + 1, _, _, _, [], _, _, acc => pure (.object acc)
  | fuel + 1, depth, name, count, (k, s, opt) :: rest, i, first, acc => do
    if ← hasNextElement t first then
      let v ← readShape t fuel depth s
      readFieldElements t fuel depth name count rest (i + 1) false (Value.insertMember k v acc)
    else if opt then readFieldElements t fuel depth name count rest (i + 1) first acc
    else throw (Shape.fault (.invalidLength i (Shape.recordWithElements name count)))

/-- A record written as an object: members matched to fields by key, other members skipped;
`seen` holds the fields read so far. -/
def readFieldMembers (t : ByteArray) :
    Nat → Nat → List (String × Shape × Bool) → Bool → List String →
      List (String × Value) → Scan Value
  | 0, _, _, _, _, _ => failPeeked t .eofWhileParsingObject
  | fuel + 1, depth, fields, first, seen, acc => do
    match ← nextKey t first with
    | none =>
      match Shape.firstMissing seen fields with
      | some k => throw (Shape.fault (.missingField k))
      | none => pure (.object acc)
    | some k =>
      match Shape.findField k fields with
      | some (s, _) =>
        if seen.contains k then throw (Shape.fault (.duplicateField k))
        else do
          objectColon t
          let v ← readShape t fuel depth s
          readFieldMembers t fuel depth fields false (k :: seen) (Value.insertMember k v acc)
      | none => do
        objectColon t
        ignoreValue t fuel
        readFieldMembers t fuel depth fields false seen acc

end

end Reader

open Reader in
/-- Reads a whole text as a document of the given shape: one value, then nothing but blanks. -/
def Shape.read (s : Shape) (t : ByteArray) : Except Error Value :=
  let fuel := (t.size + 2) * (s.depth + 4)
  let run : Scan Value := do
    let v ← readShape t fuel 128 s
    match ← skipBlank t with
    | some _ => failPeeked t .trailingCharacters
    | none => pure v
  (run.run.run 0).1

/-- Reads a whole text as any JSON value. -/
def Value.read (t : ByteArray) : Except Error Value := Shape.any.read t

end WriteAccess.Json
