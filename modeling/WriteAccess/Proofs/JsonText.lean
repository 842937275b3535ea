import Mathlib
import WriteAccess.Json.Reader

/-!
# The texts a document reader accepts

A grammar of the JSON texts that `Shape.read` accepts, and of the values it reads from them,
written over the characters of the text (a byte `b` read as the character `b`). Each relation
`R cs … rest` says that the text `cs` starts with one phrase of its kind and that `rest` follows
it; every phrase but the closing brackets starts after the blanks in front of it.

* Numbers are written as JSON writes them; their value is what the reader's arithmetic gives:
  the integer when it fits 64 bits, and otherwise a binary64 float built from the digits that fit
  64 bits and a power of ten. A number too large for binary64 has no value.
* A string is a run of pieces (a character, a one-letter escape, a `\u` escape, a surrogate
  pair of them) between quotes, and its value is the UTF-8 text its decoded bytes spell.
* An array or object that is read nests: a phrase read at depth `d` may open a container only
  when `1 < d`, and its items are read at depth `d - 1`, so a document read at depth 128 nests at
  most 127 containers.
* A value under a key that no field of a record names is skipped: it must have the form of a
  JSON value, but its strings are not decoded, its numbers are not evaluated, and it may nest
  without limit.
* A record is written as an object, its known keys at most once each and all its required keys
  present, or as an array of its field values in order, the fields past its end all optional.
-/

namespace WriteAccess.Json.Text

open Reader WriteAccess.Numeric

/-- The characters of a text, one for each byte. -/
def chars (t : ByteArray) : List Char := t.data.toList.map fun b => Char.ofNat b.toNat

/-- The text after the blanks at its start. -/
def afterBlanks (cs : List Char) : List Char := cs.dropWhile isBlankByte

/-! ## Numbers -/

/-- Decimal digits, at least one. -/
def IsDigits (ds : List Char) : Prop := ds ≠ [] ∧ ∀ c ∈ ds, isDigit c = true

/-- The exponent of a number as written: its letter, its sign as written, and its digits. -/
structure Exponent where
  letter : Char
  sign : Option Char
  digits : List Char

namespace Exponent

/-- The text of an exponent. -/
def text (x : Exponent) : List Char := x.letter :: (x.sign.toList ++ x.digits)

/-- An exponent as JSON writes it: `e` or `E`, an optional sign, and digits. -/
structure Wellformed (x : Exponent) : Prop where
  letter : x.letter = 'e' ∨ x.letter = 'E'
  sign : ∀ c ∈ x.sign, c = '+' ∨ c = '-'
  digits : IsDigits x.digits

end Exponent

/-- A number as written: a minus sign or none, the integer digits, the digits after a decimal
point, and an exponent. -/
structure NumberToken where
  negative : Bool
  integer : List Char
  fraction : Option (List Char)
  exponent : Option Exponent

namespace NumberToken

/-- The text of the fraction of a number, with its decimal point. -/
def fractionText : Option (List Char) → List Char
  | some ds => '.' :: ds
  | none => []

/-- The text of the exponent of a number. -/
def exponentText : Option Exponent → List Char
  | some x => x.text
  | none => []

/-- The text of a number after its sign. -/
def body (n : NumberToken) : List Char :=
  n.integer ++ fractionText n.fraction ++ exponentText n.exponent

/-- The text of a number. -/
def text (n : NumberToken) : List Char := (if n.negative then ['-'] else []) ++ n.body

/-- A number written as JSON writes numbers: no leading zero, digits after a decimal point, a
well-formed exponent. -/
structure Wellformed (n : NumberToken) : Prop where
  integer : IsDigits n.integer
  leading : ∀ ds, n.integer = '0' :: ds → ds = []
  fraction : ∀ ds ∈ n.fraction, IsDigits ds
  exponent : ∀ x ∈ n.exponent, x.Wellformed

end NumberToken

/-- Digits added to a significand while it stays within `limit`: the significand reached, and the
digits left from the first one that would pass the limit. -/
def takeDigits (limit : Nat) : Nat → List Char → Nat × List Char
  | acc, [] => (acc, [])
  | acc, c :: cs =>
    if overflows acc (digitValue c) limit then (acc, c :: cs)
    else takeDigits limit (acc * 10 + digitValue c) cs

/-- The float `±significand · 10^exponent`, when it is finite. -/
def floatValue (positive : Bool) (significand : Nat) (exponent : Int) : Option Number :=
  ((Binary64.ofNat significand).bind (scalePow10 · exponent 8)).map fun f =>
    .float (if positive then f else f.neg)

/-- The value of `±significand · 10^start` with an exponent of digits `ds` added (`upward`) or
taken away. An exponent past 32 bits makes zero, or no value when it makes a nonzero number
larger. -/
def exponentValue (positive : Bool) (significand : Nat) (start : Int) (upward : Bool) :
    List Char → Option Number
  | [] => none
  | d :: ds =>
    match takeDigits i32Max (digitValue d) ds with
    | (e, []) =>
      floatValue positive significand (if upward then saturate (start + e) else saturate (start - e))
    | (_, _ :: _) =>
      if significand ≠ 0 && upward then none else some (.float (Binary64.zero !positive))

/-- The value of `±significand · 10^start` under an exponent, or without one. -/
def withExponent (positive : Bool) (significand : Nat) (start : Int) : Option Exponent →
    Option Number
  | some x => exponentValue positive significand start (x.sign ≠ some '-') x.digits
  | none => floatValue positive significand start

/-- The value of `±significand · 10^start` with fraction digits `ds` and an exponent after them:
the fraction digits that fit 64 bits join the significand and lower the power, the rest are
dropped. -/
def fractionValue (positive : Bool) (significand : Nat) (start : Int) (ds : List Char)
    (x : Option Exponent) : Option Number :=
  let (kept, left) := takeDigits u64Max significand ds
  withExponent positive kept (start - (ds.length - left.length : Nat)) x

/-- The value of a written number: integer digits that fit 64 bits make an integer; digits past
64 bits raise the power of ten, and a fraction or an exponent makes a float. -/
def NumberToken.value (n : NumberToken) : Option Number :=
  let positive := !n.negative
  let (significand, long) := takeDigits u64Max 0 n.integer
  match n.fraction, n.exponent, long with
  | some ds, x, _ => fractionValue positive significand long.length ds x
  | none, none, [] => some (integerNumber positive significand)
  | none, x, _ => withExponent positive significand long.length x

/-- A text that starts with a number, its value `v`, and `rest` after it. -/
def NumberText (cs : List Char) (v : Number) (rest : List Char) : Prop :=
  ∃ n : NumberToken, n.Wellformed ∧ cs = n.text ++ rest ∧ n.value = some v

/-- A text that starts with a number of any value, and `rest` after it. -/
def NumberForm (cs rest : List Char) : Prop :=
  ∃ n : NumberToken, n.Wellformed ∧ cs = n.text ++ rest

/-! ## Strings -/

/-- The value of four hex digits. -/
def hexNumber (hex : List Char) : Option Nat :=
  hex.foldl (fun acc c => acc.bind fun a => (hexValue c).map (a * 16 + ·)) (some 0)

/-- A piece of the text of a string: a character standing for itself, a one-letter escape, a
`\u` escape, or a surrogate pair of `\u` escapes. -/
inductive StringPiece where
  | plain (c : Char)
  | escape (e : Char)
  | unicode (hex : List Char)
  | pair (lead trail : List Char)

namespace StringPiece

/-- The text of a piece. -/
def text : StringPiece → List Char
  | .plain c => [c]
  | .escape e => ['\\', e]
  | .unicode hex => '\\' :: 'u' :: hex
  | .pair lead trail => '\\' :: 'u' :: lead ++ '\\' :: 'u' :: trail

/-- The code point of a surrogate pair. -/
def pairPoint (lead trail : Nat) : Nat := (lead - 0xD800) * 0x400 + (trail - 0xDC00) + 0x10000

/-- The bytes a piece stands for. -/
def bytes : StringPiece → List UInt8
  | .plain c => [c.toNat.toUInt8]
  | .escape e => (simpleEscape e).toList
  | .unicode hex => ((hexNumber hex).map fun n => (utf8Bytes n).toList).getD []
  | .pair lead trail =>
    (((hexNumber lead).bind fun n₁ => (hexNumber trail).map fun n₂ =>
      (utf8Bytes (pairPoint n₁ n₂)).toList)).getD []

/-- Four hex digits. -/
def IsHex (hex : List Char) : Prop := hex.length = 4 ∧ ∀ c ∈ hex, (hexValue c).isSome

/-- A character that stands for itself: not a quote, a backslash or a control character. -/
def IsPlain (c : Char) : Prop := c ≠ '"' ∧ c ≠ '\\' ∧ 0x20 ≤ c.toNat

/-- A piece of a string that is decoded: a `\u` escape stands for a code point that is not a
surrogate, and a leading surrogate comes with a trailing one. -/
inductive Valid : StringPiece → Prop
  | plain {c : Char} : IsPlain c → Valid (.plain c)
  | escape {e : Char} : (simpleEscape e).isSome → Valid (.escape e)
  | unicode {hex : List Char} {n : Nat} : IsHex hex → hexNumber hex = some n →
      n < 0xD800 ∨ 0xDFFF < n → Valid (.unicode hex)
  | pair {lead trail : List Char} {n₁ n₂ : Nat} : IsHex lead → IsHex trail →
      hexNumber lead = some n₁ → hexNumber trail = some n₂ → 0xD800 ≤ n₁ → n₁ ≤ 0xDBFF →
      0xDC00 ≤ n₂ → n₂ ≤ 0xDFFF → Valid (.pair lead trail)

/-- A piece of a string that is skipped: any `\u` escape of four hex digits will do. -/
inductive Skippable : StringPiece → Prop
  | plain {c : Char} : IsPlain c → Skippable (.plain c)
  | escape {e : Char} : (simpleEscape e).isSome → Skippable (.escape e)
  | unicode {hex : List Char} : IsHex hex → Skippable (.unicode hex)

end StringPiece

/-- A text that starts with the body of a string after its opening quote, up to and with its
closing quote, whose decoded bytes spell `s`, and `rest` after it. -/
def StringText (cs : List Char) (s : String) (rest : List Char) : Prop :=
  ∃ pieces : List StringPiece, (∀ p ∈ pieces, p.Valid) ∧
    cs = pieces.flatMap StringPiece.text ++ '"' :: rest ∧
    String.fromUTF8? ⟨(pieces.flatMap StringPiece.bytes).toArray⟩ = some s

/-- A text that starts with the body of a string that is skipped, and `rest` after it. -/
def StringForm (cs rest : List Char) : Prop :=
  ∃ pieces : List StringPiece, (∀ p ∈ pieces, p.Skippable) ∧
    cs = pieces.flatMap StringPiece.text ++ '"' :: rest

/-! ## Values skipped -/

/-- The bracket that closes an array (`[`) or an object. -/
def closer (frame : Char) : Char := if frame == '[' then ']' else '\x7d'

mutual

/-- A text that starts with a value that is skipped, and `rest` after it. -/
inductive SkipText : List Char → List Char → Prop
  | nullWord {cs rest : List Char} :
      afterBlanks cs = ['n', 'u', 'l', 'l'] ++ rest → SkipText cs rest
  | trueWord {cs rest : List Char} :
      afterBlanks cs = ['t', 'r', 'u', 'e'] ++ rest → SkipText cs rest
  | falseWord {cs rest : List Char} :
      afterBlanks cs = ['f', 'a', 'l', 's', 'e'] ++ rest → SkipText cs rest
  | number {cs rest : List Char} : NumberForm (afterBlanks cs) rest → SkipText cs rest
  | string {cs body rest : List Char} : afterBlanks cs = '"' :: body → StringForm body rest →
      SkipText cs rest
  | container {cs body rest : List Char} {frame : Char} : frame = '[' ∨ frame = '\x7b' →
      afterBlanks cs = frame :: body → SkipSlots frame false body rest → SkipText cs rest

/-- The slots of an array or object that is skipped, up to and with its closing bracket;
`afterSlot` once a slot has been read, when a comma may come. -/
inductive SkipSlots : Char → Bool → List Char → List Char → Prop
  | close {frame : Char} {afterSlot : Bool} {cs rest : List Char} :
      afterBlanks cs = closer frame :: rest → SkipSlots frame afterSlot cs rest
  | comma {frame : Char} {cs body r rest : List Char} : afterBlanks cs = ',' :: body →
      SkipSlot frame body r → SkipSlots frame true r rest → SkipSlots frame true cs rest
  | first {frame : Char} {cs r rest : List Char} :
      SkipSlot frame cs r → SkipSlots frame true r rest → SkipSlots frame false cs rest

/-- One slot that is skipped: a value in an array, a key, a colon and a value in an object. -/
inductive SkipSlot : Char → List Char → List Char → Prop
  | item {cs rest : List Char} : SkipText cs rest → SkipSlot '[' cs rest
  | member {cs key afterKey value rest : List Char} :
      afterBlanks cs = '"' :: key → StringForm key afterKey →
      afterBlanks afterKey = ':' :: value → SkipText value rest → SkipSlot '\x7b' cs rest

end

/-! ## Values read -/

/-- Where an item starts after the one before it: at once for the first, after a comma for the
others. -/
def NextItem (first : Bool) (cs item : List Char) : Prop :=
  if first then item = cs else afterBlanks cs = ',' :: item

/-- A text that starts with a key, after a comma unless it is the first, and `rest` after its
closing quote. -/
def KeyText (first : Bool) (cs : List Char) (key : String) (rest : List Char) : Prop :=
  ∃ item body, NextItem first cs item ∧ afterBlanks item = '"' :: body ∧ StringText body key rest

mutual

/-- A text that starts with a value of any kind, read at depth `d`, and `rest` after it. -/
inductive AnyText : Nat → List Char → Value → List Char → Prop
  | nullWord {d : Nat} {cs rest : List Char} :
      afterBlanks cs = ['n', 'u', 'l', 'l'] ++ rest → AnyText d cs .null rest
  | trueWord {d : Nat} {cs rest : List Char} :
      afterBlanks cs = ['t', 'r', 'u', 'e'] ++ rest → AnyText d cs (.bool true) rest
  | falseWord {d : Nat} {cs rest : List Char} :
      afterBlanks cs = ['f', 'a', 'l', 's', 'e'] ++ rest → AnyText d cs (.bool false) rest
  | number {d : Nat} {cs rest : List Char} {n : Number} :
      NumberText (afterBlanks cs) n rest → AnyText d cs (.number n) rest
  | string {d : Nat} {cs body rest : List Char} {s : String} :
      afterBlanks cs = '"' :: body → StringText body s rest → AnyText d cs (.string s) rest
  | array {d : Nat} {cs body r rest : List Char} {items : List Value} : 1 < d →
      afterBlanks cs = '[' :: body → AnyItems (d - 1) true body items r →
      afterBlanks r = ']' :: rest → AnyText d cs (.array items) rest
  | object {d : Nat} {cs body r rest : List Char} {members : List (String × Value)} : 1 < d →
      afterBlanks cs = '\x7b' :: body → AnyMembers (d - 1) true body members r →
      afterBlanks r = '\x7d' :: rest → AnyText d cs (Value.ofMembers members) rest

/-- The items of an array of any values, up to its closing bracket. -/
inductive AnyItems : Nat → Bool → List Char → List Value → List Char → Prop
  | stop {d : Nat} {first : Bool} {cs : List Char} :
      (afterBlanks cs).head? = some ']' → AnyItems d first cs [] cs
  | next {d : Nat} {first : Bool} {cs item r rest : List Char} {v : Value} {vs : List Value} :
      NextItem first cs item → AnyText d item v r → AnyItems d false r vs rest →
      AnyItems d first cs (v :: vs) rest

/-- The members of an object of any values, up to its closing brace. -/
inductive AnyMembers : Nat → Bool → List Char → List (String × Value) → List Char → Prop
  | stop {d : Nat} {first : Bool} {cs : List Char} :
      (afterBlanks cs).head? = some '\x7d' → AnyMembers d first cs [] cs
  | next {d : Nat} {first : Bool} {cs afterKey value r rest : List Char} {k : String} {v : Value}
      {ms : List (String × Value)} :
      KeyText first cs k afterKey → afterBlanks afterKey = ':' :: value → AnyText d value v r →
      AnyMembers d false r ms rest → AnyMembers d first cs ((k, v) :: ms) rest

end

mutual

/-- A text that starts with a value of shape `s`, read at depth `d`, the value it is read as,
and `rest` after it. -/
inductive ShapeText : Nat → Shape → List Char → Value → List Char → Prop
  | any {d : Nat} {cs rest : List Char} {v : Value} : AnyText d cs v rest → ShapeText d .any cs v rest
  | string {d : Nat} {cs body rest : List Char} {s : String} :
      afterBlanks cs = '"' :: body → StringText body s rest → ShapeText d .string cs (.string s) rest
  | trueWord {d : Nat} {cs rest : List Char} :
      afterBlanks cs = ['t', 'r', 'u', 'e'] ++ rest → ShapeText d .boolean cs (.bool true) rest
  | falseWord {d : Nat} {cs rest : List Char} :
      afterBlanks cs = ['f', 'a', 'l', 's', 'e'] ++ rest →
        ShapeText d .boolean cs (.bool false) rest
  | nullWord {d : Nat} {inner : Shape} {cs rest : List Char} :
      afterBlanks cs = ['n', 'u', 'l', 'l'] ++ rest → ShapeText d (.optional inner) cs .null rest
  | present {d : Nat} {inner : Shape} {cs rest : List Char} {v : Value} :
      (afterBlanks cs).head? ≠ some 'n' → ShapeText d inner cs v rest →
      ShapeText d (.optional inner) cs v rest
  | sequence {d : Nat} {item : Shape} {cs body r rest : List Char} {items : List Value} : 1 < d →
      afterBlanks cs = '[' :: body → ShapeItems (d - 1) item true body items r →
      afterBlanks r = ']' :: rest → ShapeText d (.sequence item) cs (.array items) rest
  | elements {d : Nat} {name : String} {fields : List (String × Shape × Bool)}
      {cs body r rest : List Char} {ms : List (String × Value)} : 1 < d →
      afterBlanks cs = '[' :: body → FieldElements (d - 1) fields true body ms r →
      afterBlanks r = ']' :: rest → ShapeText d (.record name fields) cs (Value.ofMembers ms) rest
  | members {d : Nat} {name : String} {fields : List (String × Shape × Bool)}
      {cs body r rest : List Char} {ms : List (String × Value)} : 1 < d →
      afterBlanks cs = '\x7b' :: body → FieldMembers (d - 1) fields true [] body ms r →
      afterBlanks r = '\x7d' :: rest → ShapeText d (.record name fields) cs (Value.ofMembers ms) rest

/-- The items of an array of shape `item`, up to its closing bracket. -/
inductive ShapeItems : Nat → Shape → Bool → List Char → List Value → List Char → Prop
  | stop {d : Nat} {item : Shape} {first : Bool} {cs : List Char} :
      (afterBlanks cs).head? = some ']' → ShapeItems d item first cs [] cs
  | next {d : Nat} {item : Shape} {first : Bool} {cs start r rest : List Char} {v : Value}
      {vs : List Value} :
      NextItem first cs start → ShapeText d item start v r → ShapeItems d item false r vs rest →
      ShapeItems d item first cs (v :: vs) rest

/-- The elements of a record written as an array, matched to its fields in order, up to its
closing bracket: an element for each field, or none for an optional field once the array has
ended. -/
inductive FieldElements : Nat → List (String × Shape × Bool) → Bool → List Char →
    List (String × Value) → List Char → Prop
  | done {d : Nat} {first : Bool} {cs : List Char} : FieldElements d [] first cs [] cs
  | next {d : Nat} {k : String} {s : Shape} {opt : Bool} {fields : List (String × Shape × Bool)}
      {first : Bool} {cs start r rest : List Char} {v : Value} {ms : List (String × Value)} :
      NextItem first cs start → ShapeText d s start v r → FieldElements d fields false r ms rest →
      FieldElements d ((k, s, opt) :: fields) first cs ((k, v) :: ms) rest
  | omit {d : Nat} {k : String} {s : Shape} {fields : List (String × Shape × Bool)}
      {first : Bool} {cs rest : List Char} {ms : List (String × Value)} :
      (afterBlanks cs).head? = some ']' → FieldElements d fields first cs ms rest →
      FieldElements d ((k, s, true) :: fields) first cs ms rest

/-- The members of a record written as an object, up to its closing brace: each key a field
names read once against its field, the values under other keys skipped, and every required field
present; `seen` holds the keys read so far. -/
inductive FieldMembers : Nat → List (String × Shape × Bool) → Bool → List String → List Char →
    List (String × Value) → List Char → Prop
  | close {d : Nat} {fields : List (String × Shape × Bool)} {first : Bool} {seen : List String}
      {cs : List Char} :
      (afterBlanks cs).head? = some '\x7d' → (∀ k s, (k, s, false) ∈ fields → k ∈ seen) →
      FieldMembers d fields first seen cs [] cs
  | known {d : Nat} {fields : List (String × Shape × Bool)} {first : Bool} {seen : List String}
      {cs afterKey value r rest : List Char} {k : String} {s : Shape} {opt : Bool} {v : Value}
      {ms : List (String × Value)} :
      KeyText first cs k afterKey → Shape.findField k fields = some (s, opt) → k ∉ seen →
      afterBlanks afterKey = ':' :: value → ShapeText d s value v r →
      FieldMembers d fields false (k :: seen) r ms rest →
      FieldMembers d fields first seen cs ((k, v) :: ms) rest
  | unknown {d : Nat} {fields : List (String × Shape × Bool)} {first : Bool} {seen : List String}
      {cs afterKey value r rest : List Char} {k : String} {ms : List (String × Value)} :
      KeyText first cs k afterKey → Shape.findField k fields = none →
      afterBlanks afterKey = ':' :: value → SkipText value r →
      FieldMembers d fields false seen r ms rest → FieldMembers d fields first seen cs ms rest

end

/-- A whole text that is a document of shape `s`, read as `v`: one value read at depth 128,
with nothing but blanks after it. -/
def Document (s : Shape) (cs : List Char) (v : Value) : Prop :=
  ∃ rest, ShapeText 128 s cs v rest ∧ afterBlanks rest = []

end WriteAccess.Json.Text
