import WriteAccess.Url.IdnaTable
import WriteAccess.Url.Bidi
import WriteAccess.Url.Punycode
import WriteAccess.Text.Canonical
import WriteAccess.Text.Printable

/-!
# Domain names to ASCII

The host of a URL under a special scheme is a domain name, written in ASCII: each character is
mapped (upper case to lower case, compatibility forms to their plain forms, some characters
removed), the result is put in composed normal form and cut into labels at the dots, each label
is checked, and a label with non-ASCII characters is written in Punycode after `xn--`.

The processing is the non-transitional one with the settings URLs use: hyphens anywhere, no
limits on the length of labels or names beyond the bounds of `Url.Punycode`, and a deny list of ASCII characters that cannot stand in a host (controls, space,
DEL and `%#/:<>?@[\]^|`). A label that already starts with `xn--` must decode to a label in
composed normal form that is valid as it stands and is not plain ASCII. A label may not start
with a combining mark; a zero-width joiner must follow a virama, and a zero-width non-joiner
must follow a virama or stand between letters that join across it. A domain name with
right-to-left text must satisfy the rules of `Url.Bidi`.
-/

namespace WriteAccess.Url.Idna

open Text

/-! ## The mapping -/

/-- What the mapping does with a code point. -/
inductive Status where
  | valid
  | mapped (image : List Nat)
  | ignored
  | deviation
  | disallowed
  deriving Repr, Inhabited

/-- Reads one entry of the mapping text: the first code point of a run and its status. -/
def parseEntry (word : String) : Option (Run Status) :=
  let (digits, rest) := spanHex word
  match hexNumber? digits, rest with
  | some start, ['V'] => some ⟨start, .valid⟩
  | some start, ['I'] => some ⟨start, .ignored⟩
  | some start, ['D'] => some ⟨start, .deviation⟩
  | some start, ['X'] => some ⟨start, .disallowed⟩
  | some start, 'M' :: targets =>
    let parts := (String.ofList targets).splitOn "."
    let numbers := parts.filterMap (fun p => hexNumber? p.toList)
    some ⟨start, .mapped (if targets.isEmpty then [] else numbers)⟩
  | _, _ => none

/-- The mapping entries, in increasing order of first code point. -/
def mappingTable : Array (Run Status) := readRuns parseEntry mappingText

/-- The status of an ASCII code point: the capital letters map to the small ones, and every
other one is valid (the deny list is applied apart). These are the table's first runs. -/
def asciiStatus (c : Nat) : Status :=
  if 0x41 ≤ c ∧ c ≤ 0x5A then .mapped [c + 0x20] else .valid

/-- The status of a code point; ASCII is read without the table. -/
def status (c : Nat) : Status :=
  if c < 0x80 then asciiStatus c else runValue mappingTable .disallowed c

/-! ## Checks -/

/-- Whether an ASCII code point is denied in a host. -/
def denied (c : Nat) : Bool :=
  c ≤ 0x20 || c == 0x7F || "%#/:<>?@[\\]^|".toList.contains (Char.ofNat c)

/-- Whether a code point is a combining mark; none lies below U+0300, where the table starts. -/
def isMark (c : Nat) : Bool := 0x300 ≤ c && Text.inRanges markRanges c

/-- Whether a label starts with a combining mark. -/
def startsWithMark : List Nat → Bool
  | [] => false
  | c :: _ => isMark c

/-- Whether a code point is the zero-width non-joiner or joiner. -/
def isJoiner (c : Nat) : Bool := c == 0x200C || c == 0x200D

/-- The joining type of the first code point that is not transparent. -/
def firstJoining : List Nat → Bidi.JoiningType
  | [] => .nonJoining
  | c :: rest =>
    match Bidi.joiningType c with
    | .transparent => firstJoining rest
    | t => t

/-- Whether letters join across a zero-width non-joiner: past transparent code points, the one
before it (`before` holds them nearest first) joins to the left or both ways, and the one after
it joins to the right or both ways. -/
def joinsAcross (before after : List Nat) : Bool :=
  (match firstJoining before with
    | .left | .dual => true
    | _ => false) &&
  (match firstJoining after with
    | .right | .dual => true
    | _ => false)

/-- Whether every zero-width joiner of a label follows a virama and every zero-width non-joiner
follows a virama or stands between letters that join; `before` holds the code points before the
rest of the label, nearest first. -/
def joinersPlaced : List Nat → List Nat → Bool
  | _, [] => true
  | before, c :: rest =>
    let afterVirama := (before.head?.map viramas.contains).getD false
    let placed :=
      if c = 0x200D then afterVirama
      else if c = 0x200C then afterVirama || joinsAcross before rest
      else true
    placed && joinersPlaced (c :: before) rest

/-- Whether a code point may stand in a label as it is. -/
def isValidPoint (c : Nat) : Bool :=
  match status c with
  | .valid => true
  | .deviation => true
  | _ => false

/-- Whether a label, as code points, may stand in a domain name. -/
def labelAllowed (label : List Nat) : Bool :=
  !startsWithMark label && joinersPlaced [] label &&
    label.all (fun c => isValidPoint c && !(c < 0x80 && denied c))

/-! ## Processing -/

/-- The mapping applied to a list of code points; `none` if one is disallowed. -/
def mapPoints : List Nat → Option (List Nat)
  | [] => some []
  | c :: rest =>
    match status c, mapPoints rest with
    | _, none => none
    | .valid, some out => some (c :: out)
    | .deviation, some out => some (c :: out)
    | .ignored, some out => some out
    | .mapped image, some out => some (image ++ out)
    | .disallowed, some _ => none

/-- Splits code points at the dots. -/
def splitLabels : List Nat → List Nat → List (List Nat)
  | [], cur => [cur.reverse]
  | c :: rest, cur =>
    if c = 0x2E then cur.reverse :: splitLabels rest [] else splitLabels rest (c :: cur)

/-- One mapped label as Unicode, the form the checks look at: a label that starts with `xn--`
decoded, any other as it is; `none` when the label is not valid. -/
def labelToUnicode (label : List Nat) : Option (List Nat) :=
  match label with
  | 0x78 :: 0x6E :: 0x2D :: 0x2D :: encoded =>
    if encoded.any (· ≥ 0x80) then none
    else
      match Punycode.decode (encoded.map Char.ofNat) with
      | none => none
      | some decoded =>
        if decoded.isEmpty || decoded.all (· < 0x80) || !Canonical.isNormalized decoded ||
            !labelAllowed decoded then none
        else some decoded
  | _ => if labelAllowed label then some label else none

/-- The ASCII form of one mapped label that is valid: as it is when it is ASCII (a label that
starts with `xn--` is), and in Punycode after `xn--` otherwise; `none` when it is too long for
the encoder. -/
def labelToAscii (label : List Nat) : Option String :=
  if label.all (· < 0x80) then some (String.ofList (label.map Char.ofNat))
  else ("xn--" ++ ·) <$> Punycode.encode label

/-- The ASCII form of a domain name given as UTF-8 bytes; `none` when it is not a valid name. -/
def domainToAscii (bytes : List UInt8) : Option String := do
  let text ← String.fromUTF8? (ByteArray.mk bytes.toArray)
  let mapped ← mapPoints (text.toList.map Char.toNat)
  let normal := Canonical.normalize mapped
  if normal.any (fun c => c < 0x80 && denied c) then none
  let labels := splitLabels normal []
  let unicode ← labels.mapM labelToUnicode
  if !Bidi.domainReadsOneWay unicode then none
  let ascii ← labels.mapM labelToAscii
  pure (".".intercalate ascii)

end WriteAccess.Url.Idna
