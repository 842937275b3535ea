import WriteAccess.Numeric.Binary64

/-!
# Shortest decimal digits

For a finite nonzero binary64 value, the decimal `d · 10^k` with the fewest significant digits
that still reads back as that value, and of those the nearest to it.

A decimal reads back as `x` when it lies in the interval of reals that round to `x`: halfway to
each neighbour, the ends included when the significand of `x` is even (a tie goes to the even
neighbour). The neighbour below is only half as far when `x` is the least value of its binade.

For `n = 1, 2, …, 17` the search looks at the grid of decimals with `n` significant digits around
`x`: if a point of that grid lies in the interval, so does one of the two grid points that enclose
`x`, so only those two are tested, in exact natural arithmetic. Seventeen digits always suffice.
-/

namespace WriteAccess.Numeric

/-- A decimal `digits · 10^exponent` with a positive digit string and no trailing zero. -/
structure Decimal where
  digits : Nat
  exponent : Int
  deriving DecidableEq, Repr

namespace Decimal

/-- Number of decimal digits of a natural number (one for zero). -/
def digitCount (n : Nat) : Nat := (Nat.toDigits 10 n).length

/-- `⌊log₁₀ (num / den)⌋` for positive `num` and `den`: the digit counts give it up to one. -/
def floorLog10 (num den : Nat) : Int :=
  let k : Int := (digitCount num : Int) - (digitCount den : Int)
  -- `num / den ≥ 10^k` exactly when `num · 10^(-k) ≥ den · 10^k`, both sides made whole.
  let lhs := num * Nat.pow 10 (-k).toNat
  let rhs := den * Nat.pow 10 k.toNat
  if lhs < rhs then k - 1 else k

/-- Moves trailing zeros of the digit string into the exponent. -/
def normalize (digits : Nat) (exponent : Int) : Decimal :=
  go digits exponent (digitCount digits)
where
  go (d : Nat) (e : Int) : Nat → Decimal
    | 0 => ⟨d, e⟩
    | fuel + 1 => if d ≠ 0 ∧ d % 10 = 0 then go (d / 10) (e + 1) fuel else ⟨d, e⟩

end Decimal

namespace Binary64

/-- Compares `c · 10^k` with `m · 2^e`, exactly: `lt`, `eq` or `gt`. -/
def compareScaled (c : Nat) (k : Int) (m : Nat) (e : Int) : Ordering :=
  let lhs := c * Nat.pow 10 k.toNat * Nat.pow 2 (-e).toNat
  let rhs := m * Nat.pow 10 (-k).toNat * Nat.pow 2 e.toNat
  compare lhs rhs

/-- Whether `c · 10^k` reads back as the positive value `m · 2^e`: it lies between the two
midpoints to the neighbours, `low · 2^(e-2)` and `high · 2^(e-2)`, the ends counting when
`closed`. -/
def readsBack (c : Nat) (k : Int) (low high : Nat) (e : Int) (closed : Bool) : Bool :=
  let above := compareScaled c k low (e - 2)
  let below := compareScaled c k high (e - 2)
  (above == .gt || (closed && above == .eq)) && (below == .lt || (closed && below == .eq))

/-- Of two candidates `c` and `c + 1` on the grid `10^k`, the one nearer to `m · 2^e`, the lower
on an exact tie when it is even and the upper otherwise. -/
def nearerOf (c : Nat) (k : Int) (m : Nat) (e : Int) : Nat :=
  -- Twice the distances, over a common scale: `2x - 2c·10^k` against `2(c+1)·10^k - 2x`.
  let x := m * Nat.pow 10 (-k).toNat * Nat.pow 2 e.toNat
  let lo := c * Nat.pow 10 k.toNat * Nat.pow 2 (-e).toNat
  let hi := (c + 1) * Nat.pow 10 k.toNat * Nat.pow 2 (-e).toNat
  if x - lo < hi - x then c
  else if hi - x < x - lo then c + 1
  else if c % 2 = 0 then c else c + 1

/-- The shortest decimal that reads back as the positive value `m · 2^e` (`m > 0`), nearest of
those; `lowerCloser` says the neighbour below is half as far away. -/
def shortestOf (m : Nat) (e : Int) (lowerCloser : Bool) : Decimal :=
  let low := 4 * m - (if lowerCloser then 1 else 2)
  let high := 4 * m + 2
  let closed := m % 2 == 0
  let (num, den) := scaleRatio m e
  let top := Decimal.floorLog10 num den
  let rec search : Nat → Nat → Decimal
    | 0, _ => Decimal.normalize m 0
    | fuel + 1, n =>
      -- The grid whose points below `x` have `n` digits.
      let k : Int := top - (n : Int) + 1
      let (a, b) := scaleRatio m e
      -- `c = ⌊x / 10^k⌋`, with `x = a / b`.
      let c := (a * Nat.pow 10 (-k).toNat) / (b * Nat.pow 10 k.toNat)
      let lowOk := readsBack c k low high e closed
      let highOk := readsBack (c + 1) k low high e closed
      if lowOk && highOk then Decimal.normalize (nearerOf c k m e) k
      else if lowOk then Decimal.normalize c k
      else if highOk then Decimal.normalize (c + 1) k
      else search fuel (n + 1)
  search 17 1

/-- The shortest decimal reading back as the magnitude of a nonzero value. -/
def shortest (x : Binary64) : Decimal :=
  shortestOf x.significand x.exponent
    (x.significand == Nat.pow 2 52 && minExponent < x.exponent)

end Binary64

end WriteAccess.Numeric
