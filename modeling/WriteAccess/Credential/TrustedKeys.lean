/-!
# Trusted keys

The set of pre-shared keys a caller may present. From a comma-separated list each entry is
trimmed of blanks (Unicode `White_Space`), empty entries are dropped and repeats kept once; a
presented key matches when it is exactly one of them, code point for code point.
-/

/-! ## Blank characters

The characters with the Unicode `White_Space` property, and trimming them from both ends of a
text. The set is small and fixed: the ASCII blanks from tab to carriage return and the space,
next line, no-break space, the Ogham space mark, the spaces from en quad to hair space, the line
and paragraph separators, the narrow no-break space, the medium mathematical space and the
ideographic space. Zero-width characters such as U+200B and U+FEFF are not blank.
-/

namespace WriteAccess.Text

/-- Whether a character has the Unicode `White_Space` property. -/
def isBlank (c : Char) : Bool :=
  let n := c.toNat
  (0x09 ≤ n && n ≤ 0x0D) || n == 0x20 || n == 0x85 || n == 0xA0 || n == 0x1680 ||
    (0x2000 ≤ n && n ≤ 0x200A) || n == 0x2028 || n == 0x2029 || n == 0x202F ||
    n == 0x205F || n == 0x3000

/-- A list of characters without its leading blanks. -/
def dropBlanks (cs : List Char) : List Char := cs.dropWhile isBlank

/-- A text without its leading and trailing blanks. -/
def trimBlanks (s : String) : String :=
  String.ofList (dropBlanks (dropBlanks s.toList).reverse).reverse

/-- Whether a text holds nothing but blanks. -/
def isAllBlank (s : String) : Bool := s.toList.all isBlank

example : trimBlanks "  abc　\n" = "abc" ∧ trimBlanks "​x" = "​x" := by decide +kernel

end WriteAccess.Text

/-! ## Trusted keys -/

namespace WriteAccess

/-- A finite set of trusted keys, each held once, in the order first met. -/
structure TrustedKeys where
  keys : List String
  deriving DecidableEq, Repr

namespace TrustedKeys

/-- No key. -/
def empty : TrustedKeys := ⟨[]⟩

/-- Adds a key unless it is already held. -/
def insert (ks : TrustedKeys) (k : String) : TrustedKeys :=
  if ks.keys.contains k then ks else ⟨ks.keys ++ [k]⟩

/-- The set of the keys of a list, as given. -/
def ofList (keys : List String) : TrustedKeys := keys.foldl insert empty

/-- The pieces of a text between its commas, in order; a text without a comma is one piece. -/
def csvPieces (raw : String) : List String := (raw.toList.splitOn ',').map String.ofList

/-- The entries of a comma-separated list, trimmed of blanks, empty ones dropped. -/
def csvEntries (raw : String) : List String :=
  ((csvPieces raw).map Text.trimBlanks).filter (· ≠ "")

/-- The set of keys of a comma-separated list. -/
def ofCsv (raw : String) : TrustedKeys := ofList (csvEntries raw)

/-- Whether a presented key is trusted. -/
def trusts (ks : TrustedKeys) (presented : String) : Bool := ks.keys.contains presented

/-- How many keys are trusted. -/
def size (ks : TrustedKeys) : Nat := ks.keys.length

/-- Whether no key is trusted. -/
def isEmpty (ks : TrustedKeys) : Bool := ks.keys.isEmpty

/-- The diagnostic text of a key set: its size only, never a key. -/
def debugText (ks : TrustedKeys) : String :=
  "TrustedKeys \x7b len: " ++ toString ks.size ++ " \x7d"

end TrustedKeys

end WriteAccess
