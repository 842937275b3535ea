/-!
# Binary64 values

Finite IEEE 754 binary64 values, written as a sign, an integer significand and a power of two,
and the one operation every other step is built from: rounding an exact non-negative ratio
`num / den` to the nearest such value, a tie going to the even significand.

Products and quotients of two values are their exact results rounded once, which is what the
hardware operations compute; a result beyond the largest finite value is reported as `none`.
-/

namespace WriteAccess.Numeric

/-- A finite binary64 value `(-1)^negative · significand · 2^exponent`. A normal value has a
significand of 53 bits and an exponent in `[-1074, 971]`; a subnormal value or a zero has a
smaller significand and the exponent `-1074`. -/
structure Binary64 where
  negative : Bool
  significand : Nat
  exponent : Int
  deriving DecidableEq, Repr

namespace Binary64

/-- The exponent of subnormal values, the least there is. -/
def minExponent : Int := -1074

/-- The exponent of the largest finite values. -/
def maxExponent : Int := 971

/-- Zero, with the given sign. -/
def zero (negative : Bool) : Binary64 := ⟨negative, 0, minExponent⟩

/-- Whether the value is a zero of either sign. -/
def isZero (x : Binary64) : Bool := x.significand == 0

/-- The same magnitude with the other sign. -/
def neg (x : Binary64) : Binary64 := { x with negative := !x.negative }

/-- `num · 2^e` as a ratio of naturals, the power moved below the line when it is negative. -/
def scaleRatio (num : Nat) (e : Int) : Nat × Nat :=
  if 0 ≤ e then (num * Nat.pow 2 e.toNat, 1) else (num, Nat.pow 2 (-e).toNat)

/-- `⌊log₂ (num / den)⌋` for positive `num` and `den`: the binary lengths of the two give it up
to one, and one comparison settles which. -/
def floorLog2 (num den : Nat) : Int :=
  let k : Int := (Nat.log2 num : Int) - (Nat.log2 den : Int)
  let (a, b) := scaleRatio den k
  -- `num / den < 2^k` exactly when `num · b < a`, with `(a, b)` the ratio `den · 2^k`.
  if num * b < a then k - 1 else k

/-- `q` rounded up when the remainder `r` of a division by `d` is more than half of `d`, or exactly
half and `q` is odd: rounding to nearest with ties to even. -/
def roundHalfEven (q r d : Nat) : Nat :=
  if d < 2 * r ∨ (2 * r = d ∧ q % 2 = 1) then q + 1 else q

/-- The nearest binary64 value to `num / den` (`den > 0`), ties to the even significand, with the
given sign; `none` when it lies beyond the largest finite value. -/
def ofRatio (negative : Bool) (num den : Nat) : Option Binary64 :=
  if num = 0 ∨ den = 0 then some (zero negative) else
    let e : Int := max (floorLog2 num den - 52) minExponent
    let (n, d) :=
      if 0 ≤ e then (num, den * Nat.pow 2 e.toNat) else (num * Nat.pow 2 (-e).toNat, den)
    let q := roundHalfEven (n / d) (n % d) d
    -- Rounding up may carry into a 54th bit; the value is then the next power of two.
    let (q, e) := if q = Nat.pow 2 53 then (Nat.pow 2 52, e + 1) else (q, e)
    if maxExponent < e then none else some ⟨negative, q, e⟩

/-- The binary64 value nearest to a natural number. -/
def ofNat (n : Nat) : Option Binary64 := ofRatio false n 1

/-- The exact magnitude of a value as a ratio of naturals. -/
def toRatio (x : Binary64) : Nat × Nat := scaleRatio x.significand x.exponent

/-- The product of two values, rounded once. -/
def mul (x y : Binary64) : Option Binary64 :=
  let (a, b) := scaleRatio (x.significand * y.significand) (x.exponent + y.exponent)
  ofRatio (x.negative != y.negative) a b

/-- The quotient of two values, rounded once; `none` for a zero divisor. -/
def div (x y : Binary64) : Option Binary64 :=
  if y.significand = 0 then none else
    let (a, b) := scaleRatio x.significand (x.exponent - y.exponent)
    ofRatio (x.negative != y.negative) a (b * y.significand)

/-- The binary64 value nearest to `10^k`, as a table of powers of ten holds it. -/
def pow10 (k : Nat) : Option Binary64 := ofNat (Nat.pow 10 k)

end Binary64

end WriteAccess.Numeric
