/-!
# Punycode

The bootstring encoding of RFC 3492 with the parameters for domain names: a label of Unicode
code points becomes its ASCII code points, a `-` if there were any, and then the other code
points as a sequence of variable-length base-36 integers. Each integer is the gap, counted over
the positions of the label, to the next insertion, in increasing code point order.

Both directions work on code points as natural numbers. Decoding refuses what the domain-name
algorithm refuses: a non-ASCII code point before the last `-`, a character that is not a
lower-case digit, an integer cut short, a sum past 32 bits, and a result that is not a Unicode
scalar value.

Both directions also bound their input, so that the work stays linear in practice: a label of
more than 1000 code points is not encoded, and a text of more than 2000 characters is not
decoded.
-/

namespace WriteAccess.Url.Punycode

/-! ## Parameters and bias adaptation -/

/-- The most code points the encoder takes. -/
def maxEncodeInput : Nat := 1000

/-- The most characters the decoder takes. -/
def maxDecodeInput : Nat := 2000

/-- The number of digits. -/
def base : Nat := 36

/-- The least threshold. -/
def tMin : Nat := 1

/-- The greatest threshold. -/
def tMax : Nat := 26

/-- The skew of the bias adaptation. -/
def skew : Nat := 38

/-- The damping of the first adaptation. -/
def damp : Nat := 700

/-- The bias before the first insertion. -/
def initialBias : Nat := 72

/-- The first code point that is not basic. -/
def initialN : Nat := 128

/-- The largest value a 32-bit register holds. -/
def u32Max : Nat := 0xFFFFFFFF

/-- The threshold of the digit at position `k` under a bias. -/
def threshold (k bias : Nat) : Nat :=
  if k ≤ bias then tMin else if k ≥ bias + tMax then tMax else k - bias

theorem threshold_pos (k bias : Nat) : 0 < threshold k bias := by
  unfold threshold tMin tMax; split <;> (try split) <;> omega

theorem threshold_le (k bias : Nat) : threshold k bias ≤ 26 := by
  unfold threshold tMin tMax; split <;> (try split) <;> omega

/-- Divides a delta by 35 while it stays above 455, counting 36 per division. -/
def adaptSteps (delta k : Nat) : Nat × Nat :=
  if delta > 455 then adaptSteps (delta / 35) (k + 36) else (delta, k)
termination_by delta
decreasing_by omega

/-- The bias after an insertion: `delta` was the gap, `numPoints` the length after it, `first`
whether it was the first insertion. -/
def adapt (delta numPoints : Nat) (first : Bool) : Nat :=
  let d := if first then delta / damp else delta / 2
  let (d, k) := adaptSteps (d + d / numPoints) 0
  k + (36 * d) / (d + skew)

/-! ## Digits -/

/-- The character of a digit: `a` to `z` for 0 to 25, `0` to `9` for 26 to 35. -/
def digitChar (d : Nat) : Char :=
  if d < 26 then Char.ofNat (97 + d) else Char.ofNat (22 + d)

/-- The digit of a character, lower-case letters and decimal digits only. -/
def digitValue? (c : Char) : Option Nat :=
  if 'a' ≤ c ∧ c ≤ 'z' then some (c.toNat - 97)
  else if '0' ≤ c ∧ c ≤ '9' then some (c.toNat - 22)
  else none

/-! ## Encoding -/

/-- The digits of `q` as a variable-length integer whose first digit sits at position `k`. -/
def encodeInteger (bias k q : Nat) : List Char :=
  let t := threshold k bias
  if q < t then [digitChar q]
  else digitChar (t + (q - t) % (36 - t)) :: encodeInteger bias (k + 36) ((q - t) / (36 - t))
termination_by q
decreasing_by
  have := threshold_pos k bias
  have := threshold_le k bias
  have : (q - threshold k bias) / (36 - threshold k bias) ≤ q - threshold k bias :=
    Nat.div_le_self _ _
  omega

/-- The encoder's registers: the next code point, the gap, the bias, how many code points are
placed, and the output so far. -/
structure EncodeState where
  n : Nat
  delta : Nat
  bias : Nat
  handled : Nat
  output : List Char

/-- One pass over the label for the code point `m`: every smaller code point widens the gap, and
every occurrence of `m` writes the gap and starts a new one. -/
def encodePass (basicCount m : Nat) (st : EncodeState) : List Nat → EncodeState
  | [] => st
  | c :: rest =>
    if c < m then encodePass basicCount m { st with delta := st.delta + 1 } rest
    else if c = m then
      encodePass basicCount m
        { st with
          output := st.output ++ encodeInteger st.bias base st.delta
          bias := adapt st.delta (st.handled + 1) (st.handled == basicCount)
          delta := 0
          handled := st.handled + 1 } rest
    else encodePass basicCount m st rest

/-- The passes, one per distinct code point from the smallest unplaced one up; each places at
least one code point, so the label's length bounds them. -/
def encodeRounds (label : List Nat) (basicCount : Nat) : Nat → EncodeState → EncodeState
  | 0, st => st
  | fuel + 1, st =>
    if st.handled ≥ label.length then st
    else
      let m := (label.filter (· ≥ st.n)).foldl min (u32Max + 1)
      let st := { st with delta := st.delta + (m - st.n) * (st.handled + 1), n := m }
      let st := encodePass basicCount m st label
      encodeRounds label basicCount fuel { st with delta := st.delta + 1, n := st.n + 1 }

/-- The Punycode form of a label, without the `xn--` prefix; `none` when the label is longer
than `maxEncodeInput`. -/
def encode (label : List Nat) : Option String :=
  if label.length > maxEncodeInput then none else
  let basic := label.filter (· < initialN)
  let start := basic.map Char.ofNat ++ (if basic.isEmpty then [] else ['-'])
  let st := encodeRounds label basic.length label.length
    ⟨initialN, 0, initialBias, basic.length, start⟩
  some (String.ofList st.output)

/-! ## Decoding -/

/-- Reads one variable-length integer and adds it to `i`; `k` is the digit's position and `w`
its weight. Gives the new `i` and the characters after the integer. -/
def decodeInteger (bias : Nat) : Nat → Nat → Nat → List Char → Option (Nat × List Char)
  | _, _, _, [] => none
  | k, w, i, c :: rest =>
    match digitValue? c with
    | none => none
    | some d =>
      if d > (u32Max - i) / w then none
      else
        let i := i + d * w
        let t := threshold k bias
        if d < t then some (i, rest)
        else if w > u32Max / (36 - t) then none
        else decodeInteger bias (k + 36) (w * (36 - t)) i rest

/-- Inserts an element before position `i` of a list. -/
def insertAt (a : Nat) : Nat → List Nat → List Nat
  | 0, xs => a :: xs
  | _ + 1, [] => [a]
  | i + 1, x :: xs => x :: insertAt a i xs

/-- Whether a number is a Unicode scalar value. -/
def isScalar (n : Nat) : Bool :=
  n < 0xD800 || (0xDFFF < n && n < 0x110000)

/-- Decodes the integers one by one, inserting a code point for each. -/
def decodeLoop : Nat → Nat → Nat → Nat → List Nat → List Char → Option (List Nat)
  | 0, _, _, _, _, _ => none
  | _ + 1, _, _, _, out, [] => some out
  | fuel + 1, n, i, bias, out, c :: rest =>
    match decodeInteger bias base 1 i (c :: rest) with
    | none => none
    | some (i', rest') =>
      let len := out.length + 1
      let bias' := adapt (i' - i) len (i == 0)
      let n' := n + i' / len
      if n' > u32Max || !isScalar n' then none
      else decodeLoop fuel n' (i' % len + 1) bias' (insertAt n' (i' % len) out) rest'

/-- The code points of a Punycode label given without its `xn--` prefix. -/
def decode (text : List Char) : Option (List Nat) :=
  if text.length > maxDecodeInput then none else
  let rev := text.reverse
  let (basic, extended) :=
    match rev.span (· ≠ '-') with
    | (_, []) => ([], text)
    | (after, _ :: before) => if before.isEmpty then ([], text) else (before.reverse, after.reverse)
  if basic.any (fun c => c.toNat ≥ 128) then none
  else decodeLoop (extended.length + 1) initialN 0 initialBias (basic.map Char.toNat) extended

end WriteAccess.Url.Punycode
