/-!
# Tables of runs

Unicode properties are kept as tables of runs: each entry gives the first code point of a run
and the value every code point of the run has, up to the next entry's first code point. The
entries are in increasing order of first code point, so the value at a code point is found by
halving: it is the value of the last entry that starts at or before it.

The tables are written as text, in lower-case hex, and read once; the readers here are the hex
numerals they share.
-/

namespace WriteAccess.Text

/-- The value of a lower-case hex digit. -/
def lowerHexValue? (c : Char) : Option Nat :=
  if '0' ≤ c ∧ c ≤ '9' then some (c.toNat - 48)
  else if 'a' ≤ c ∧ c ≤ 'f' then some (c.toNat - 87)
  else none

/-- The value of a lower-case hex numeral; `none` when it is empty or has another character. -/
def hexNumber? (cs : List Char) : Option Nat :=
  if cs.isEmpty then none
  else cs.foldl (fun acc c => acc.bind fun n => (lowerHexValue? c).map (n * 16 + ·)) (some 0)

/-- Splits a word into its leading lower-case hex digits and the rest. -/
def spanHex (word : String) : List Char × List Char :=
  word.toList.span (fun c => (lowerHexValue? c).isSome)

/-- One run of a table: its first code point and the value of its code points. -/
structure Run (α : Type) where
  start : Nat
  value : α
  deriving Repr, Inhabited

/-- The value of the last run in `table[lo] … table[hi - 1]` that starts at or before `c`,
given that `table[lo]` does; `fallback` if there is none. -/
def runValueFrom (table : Array (Run α)) (fallback : α) (c : Nat) (lo hi : Nat) : α :=
  if _h : lo + 1 < hi then
    let mid := (lo + hi) / 2
    match table[mid]? with
    | some r =>
      if r.start ≤ c then runValueFrom table fallback c mid hi
      else runValueFrom table fallback c lo mid
    | none => fallback
  else
    match table[lo]? with
    | some r => if r.start ≤ c then r.value else fallback
    | none => fallback
termination_by hi - lo

/-- The value of a code point in a table of runs; `fallback` before the first run. -/
def runValue (table : Array (Run α)) (fallback : α) (c : Nat) : α :=
  runValueFrom table fallback c 0 table.size

/-- The value of the entry of `table[lo] … table[hi - 1]` that starts exactly at `c`. -/
def entryAtFrom (table : Array (Run α)) (c : Nat) (lo hi : Nat) : Option α :=
  if _h : lo < hi then
    let mid := (lo + hi) / 2
    match table[mid]? with
    | some r =>
      if c < r.start then entryAtFrom table c lo mid
      else if r.start < c then entryAtFrom table c (mid + 1) hi
      else some r.value
    | none => none
  else none
termination_by hi - lo

/-- The value of the entry that starts exactly at `c`, in a table whose entries each stand for
one code point. -/
def entryAt? (table : Array (Run α)) (c : Nat) : Option α := entryAtFrom table c 0 table.size

/-- Reads a table of runs written as words separated by blanks, each read by `entry`; words it
does not read are skipped. -/
def readRuns (entry : String → Option (Run α)) (text : String) : Array (Run α) :=
  ((text.splitOn " ").filterMap entry).toArray

example : hexNumber? "1f".toList = some 31 ∧ hexNumber? "1F".toList = none := by decide

end WriteAccess.Text
