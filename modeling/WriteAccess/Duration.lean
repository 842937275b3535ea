/-!
# Durations

A span of time counted in whole nanoseconds, and its diagnostic text: the largest of the units
`s`, `ms`, `µs` and `ns` that does not exceed it, the whole count of that unit, then a point and
the remaining digits of the fraction when it is not whole, trailing zeros dropped (`1.5s`,
`123.456789ms`, `999ns`, `0ns`).
-/

namespace WriteAccess

/-- A span of time in nanoseconds. -/
structure Duration where
  nanos : Nat
  deriving DecidableEq, Repr

namespace Duration

/-- Spans add up. -/
instance : Add Duration := ⟨fun a b => ⟨a.nanos + b.nanos⟩⟩

@[simp] theorem nanos_add (a b : Duration) : (a + b).nanos = a.nanos + b.nanos := rfl

/-- A span of whole milliseconds. -/
def ofMillis (ms : Nat) : Duration := ⟨ms * 1000000⟩

/-- The whole milliseconds in a span, as a 64-bit count holds them (modulo `2^64`). -/
def wholeMillis (d : Duration) : Nat := (d.nanos / 1000000) % Nat.pow 2 64

/-- The fraction `rest / unit` as digits after a point, trailing zeros dropped; `unit` is a power
of ten and `rest < unit`. -/
def fractionDigits (rest unit : Nat) : String :=
  let width := (toString unit).length - 1
  let raw := toString rest
  let padded := String.ofList (List.replicate (width - raw.length) '0') ++ raw
  String.ofList (padded.toList.reverse.dropWhile (· == '0')).reverse

/-- `whole` units, and the fraction `rest / unit` after a point when it is nonzero. -/
def decimalText (whole rest unit : Nat) (suffix : String) : String :=
  if rest = 0 then toString whole ++ suffix
  else toString whole ++ "." ++ fractionDigits rest unit ++ suffix

/-- The diagnostic text of a span. -/
def text (d : Duration) : String :=
  let n := d.nanos
  if 1000000000 ≤ n then decimalText (n / 1000000000) (n % 1000000000) 1000000000 "s"
  else if 1000000 ≤ n then decimalText (n / 1000000) (n % 1000000) 1000000 "ms"
  else if 1000 ≤ n then decimalText (n / 1000) (n % 1000) 1000 "µs"
  else toString n ++ "ns"

example : (Duration.mk 1500000000).text = "1.5s" ∧ (Duration.mk 123456789).text = "123.456789ms" ∧
    (Duration.mk 1001).text = "1.001µs" ∧ (Duration.mk 0).text = "0ns" ∧
    (Duration.mk 18446744073709551615).text = "18446744073.709551615s" := by decide +kernel

end Duration

end WriteAccess
