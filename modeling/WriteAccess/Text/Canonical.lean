import WriteAccess.Text.CanonicalTable
import WriteAccess.Text.Runs

/-!
# Canonical composition

The composed normal form of a list of code points, in three steps:

* every code point is replaced by its full canonical decomposition (a Hangul syllable splits into
  its leading consonant, vowel and optional trailing consonant);
* each run of code points of non-zero combining class is put in order of class, code points of
  one class keeping their order;
* from left to right, each code point is joined to the last starter (a code point of class zero)
  when the pair is a primary composite and no code point between them blocks it: one blocks
  when its class is zero or not below the class of the code point being joined.

A text is in composed normal form when this gives it back unchanged.
-/

namespace WriteAccess.Text.Canonical

/-! ## The tables -/

/-- Reads one run of the combining classes. -/
def classEntry (word : String) : Option (Run Nat) :=
  match word.splitOn ":" with
  | [start, cls] => do
    let s ← hexNumber? start.toList
    let k ← cls.toNat?
    pure ⟨s, k⟩
  | _ => none

/-- The combining classes as runs. -/
def combiningClasses : Array (Run Nat) := readRuns classEntry combiningClassText

/-- The canonical combining class of a code point. -/
def combiningClass (c : Nat) : Nat := runValue combiningClasses 0 c

/-- Reads code points in lower-case hex joined by dots. -/
def hexPoints (text : String) : Option (List Nat) :=
  ((text.splitOn ".").map (fun p => hexNumber? p.toList)).mapM id

/-- Reads one decomposition: the code point and the code points it fully decomposes to. -/
def decompositionEntry (word : String) : Option (Run (List Nat)) :=
  match word.splitOn "=" with
  | [point, parts] => do
    let p ← hexNumber? point.toList
    let ps ← hexPoints parts
    pure ⟨p, ps⟩
  | _ => none

/-- The canonical decompositions, each as a run of one code point. -/
def decompositions : Array (Run (List Nat)) := readRuns decompositionEntry decompositionText

/-- The full canonical decomposition of a code point, if it has one. -/
def decompositionOf? (c : Nat) : Option (List Nat) := entryAt? decompositions c

/-- Reads one primary composite: the pair and what it composes to. -/
def compositionEntry (word : String) : Option ((Nat × Nat) × Nat) :=
  match word.splitOn "=" with
  | [pair, composite] =>
    match hexPoints pair, hexNumber? composite.toList with
    | some [a, b], some c => some ((a, b), c)
    | _, _ => none
  | _ => none

/-- The primary composites, in increasing order of the pair. -/
def compositions : Array ((Nat × Nat) × Nat) :=
  ((compositionText.splitOn " ").filterMap compositionEntry).toArray

/-- Whether pair `p` comes before pair `q`. -/
def pairBefore (p q : Nat × Nat) : Bool := p.1 < q.1 || (p.1 = q.1 && p.2 < q.2)

/-- The composite of a pair among `compositions[lo] … compositions[hi - 1]`. -/
def compositeFrom (pair : Nat × Nat) (lo hi : Nat) : Option Nat :=
  if _h : lo < hi then
    let mid := (lo + hi) / 2
    match compositions[mid]? with
    | some (p, c) =>
      if pairBefore pair p then compositeFrom pair lo mid
      else if pairBefore p pair then compositeFrom pair (mid + 1) hi
      else some c
    | none => none
  else none
termination_by hi - lo

/-! ## Hangul syllables -/

/-- The first Hangul syllable. -/
def syllableBase : Nat := 0xAC00

/-- The first leading consonant. -/
def leadBase : Nat := 0x1100

/-- The first vowel. -/
def vowelBase : Nat := 0x1161

/-- The code point before the first trailing consonant. -/
def trailBase : Nat := 0x11A7

/-- The number of leading consonants. -/
def leadCount : Nat := 19

/-- The number of vowels. -/
def vowelCount : Nat := 21

/-- The number of trailing consonants, counting none. -/
def trailCount : Nat := 28

/-- The number of Hangul syllables. -/
def syllableCount : Nat := leadCount * vowelCount * trailCount

/-- Whether a code point is a precomposed Hangul syllable. -/
def isSyllable (c : Nat) : Bool := syllableBase ≤ c && c < syllableBase + syllableCount

/-- The parts of a Hangul syllable. -/
def syllableParts (c : Nat) : List Nat :=
  let s := c - syllableBase
  let lead := leadBase + s / (vowelCount * trailCount)
  let vowel := vowelBase + s % (vowelCount * trailCount) / trailCount
  let trail := s % trailCount
  if trail = 0 then [lead, vowel] else [lead, vowel, trailBase + trail]

/-- The composite of two code points, Hangul by arithmetic and the rest by the table. -/
def compose (a b : Nat) : Option Nat :=
  if leadBase ≤ a && a < leadBase + leadCount && vowelBase ≤ b && b < vowelBase + vowelCount then
    some (syllableBase + ((a - leadBase) * vowelCount + (b - vowelBase)) * trailCount)
  else if isSyllable a && (a - syllableBase) % trailCount = 0 &&
      trailBase < b && b < trailBase + trailCount then
    some (a + (b - trailBase))
  else compositeFrom (a, b) 0 compositions.size

/-! ## The three steps -/

/-- The full canonical decomposition of a code point. -/
def decomposePoint (c : Nat) : List Nat :=
  if isSyllable c then syllableParts c else (decompositionOf? c).getD [c]

/-- The full canonical decomposition of a list of code points. -/
def decompose (cs : List Nat) : List Nat := cs.flatMap decomposePoint

/-- Inserts a code point of class `k` into a run ordered by class, after every code point of a
class not above `k`. -/
def insertByClass (k c : Nat) : List Nat → List Nat
  | [] => [c]
  | x :: xs => if combiningClass x ≤ k then x :: insertByClass k c xs else c :: x :: xs

/-- Puts each run of non-starters in order of class; `run` is the ordered run so far. -/
def reorderFrom (run : List Nat) : List Nat → List Nat
  | [] => run
  | c :: rest =>
    let k := combiningClass c
    if k = 0 then run ++ c :: reorderFrom [] rest else reorderFrom (insertByClass k c run) rest

/-- The canonical order of a decomposed list of code points. -/
def reorder (cs : List Nat) : List Nat := reorderFrom [] cs

/-- The registers of composition: the finished code points (last first), the last starter, the
code points kept after it (last first), and the class of the last of them. -/
structure Composer where
  done : List Nat
  starter : Option Nat
  after : List Nat
  lastClass : Option Nat

/-- Everything the composer holds, in order. -/
def Composer.finish (st : Composer) : List Nat :=
  match st.starter with
  | some s => (st.after ++ s :: st.done).reverse
  | none => (st.after ++ st.done).reverse

/-- One code point through the composer. -/
def Composer.push (st : Composer) (c : Nat) : Composer :=
  let k := combiningClass c
  let blocked := match st.lastClass with
    | some l => !(l < k)
    | none => false
  match st.starter, (if blocked then none else st.starter.bind (compose · c)) with
  | some _, some composite => { st with starter := some composite }
  | some s, none =>
    if k = 0 then ⟨st.after ++ s :: st.done, some c, [], none⟩
    else { st with after := c :: st.after, lastClass := some k }
  | none, _ =>
    if k = 0 then ⟨st.after ++ st.done, some c, [], none⟩
    else { st with done := c :: st.after ++ st.done, after := [] }

/-- The canonical composition of a decomposed list in canonical order. -/
def composeAll (cs : List Nat) : List Nat :=
  (cs.foldl Composer.push ⟨[], none, [], none⟩).finish

/-- The composed normal form of a list of code points. ASCII text is already in it: no ASCII
code point decomposes, has a non-zero class or composes with another. -/
def normalize (cs : List Nat) : List Nat :=
  if cs.all (· < 0x80) then cs else composeAll (reorder (decompose cs))

/-- Whether a list of code points is in composed normal form. -/
def isNormalized (cs : List Nat) : Bool := normalize cs == cs

end WriteAccess.Text.Canonical
