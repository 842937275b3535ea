import WriteAccess.Json.Value
import WriteAccess.Numeric.Shortest

/-!
# Number text

How a JSON number is written. Integers are written in full. A float is written with the
shortest digits that read back as it: positionally while its leading digit stands between the
fifth place after the point and the sixteenth before it, with `.0` after an integral value, and
otherwise as one digit, the rest after a point, and a signed decimal exponent (`1e+20`,
`1.5e-7`). Zero is `0.0`, with its sign.
-/

namespace WriteAccess.Json

open WriteAccess.Numeric

/-- Where a float's text turns from positional to scientific, and how each is spelled. -/
structure FloatLayout where
  /-- Least decimal exponent of the leading digit written positionally. -/
  leastPositional : Int
  /-- Decimal exponents of the leading digit from here on are written scientifically. -/
  firstScientific : Int
  /-- Whether an integral positional value ends in `.0`. -/
  pointZero : Bool
  /-- The mark before the exponent. -/
  mark : String
  /-- Whether a non-negative exponent carries a `+`. -/
  plusSign : Bool

/-- The layout of floats in documents and in diagnostics. -/
def FloatLayout.standard : FloatLayout := ⟨-5, 16, true, "e", true⟩

end WriteAccess.Json

namespace WriteAccess.Numeric

open WriteAccess.Json

/-- `n` zeros. -/
def zeros (n : Nat) : String := String.ofList (List.replicate n '0')

/-- The text of a positive decimal under a layout. -/
def Decimal.render (layout : FloatLayout) (d : Decimal) : String :=
  let s := toString d.digits
  let n := s.length
  let lead : Int := (n : Int) - 1 + d.exponent
  if layout.leastPositional ≤ lead ∧ lead < layout.firstScientific then
    if 0 ≤ d.exponent then
      s ++ zeros d.exponent.toNat ++ (if layout.pointZero then ".0" else "")
    else if 0 ≤ lead then
      let cut := (lead + 1).toNat
      String.ofList (s.toList.take cut) ++ "." ++ String.ofList (s.toList.drop cut)
    else
      "0." ++ zeros (-lead - 1).toNat ++ s
  else
    let rest := s.toList.drop 1
    let mantissa := String.ofList (s.toList.take 1) ++
      (if rest.isEmpty then "" else "." ++ String.ofList rest)
    let sign := if lead < 0 then "-" else if layout.plusSign then "+" else ""
    mantissa ++ layout.mark ++ sign ++ toString lead.natAbs

/-- The text of a float. -/
def Binary64.render (x : Binary64) : String :=
  let sign := if x.negative then "-" else ""
  if x.isZero then sign ++ "0.0"
  else sign ++ x.shortest.render FloatLayout.standard

end WriteAccess.Numeric

namespace WriteAccess.Json

open WriteAccess.Numeric

/-- The text of a number. -/
def Number.render : Number → String
  | .natural n => toString n
  | .negative n => toString n
  | .float x => x.render

example : (Binary64.ofNat 15 |>.bind fun a => Binary64.ofNat 10 |>.bind fun b => a.div b).map
    Binary64.render = some "1.5" := by decide +kernel

end WriteAccess.Json
