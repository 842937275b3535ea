import WriteAccess.Url.BidiTable
import WriteAccess.Text.Runs

/-!
# Right-to-left labels

A domain name that holds a right-to-left letter or an Arabic digit is a bidirectional domain
name, and then every label of it must read unambiguously in one direction:

* a label starts with a left-to-right letter (it is a left-to-right label) or with a
  right-to-left letter (a right-to-left label);
* a left-to-right label holds only left-to-right letters, European digits, separators, neutrals
  and marks, and its last code point before any trailing marks is a letter or a European digit;
* a right-to-left label holds only right-to-left letters, digits of either kind, separators,
  neutrals and marks, never both European and Arabic digits, and its last code point before
  any trailing marks is a letter or a digit.

Empty labels are not looked at. The joining types read here serve the rule for the zero-width
non-joiner, which `Url.Idna` applies.
-/

namespace WriteAccess.Url.Bidi

open Text

/-- The bidirectional classes the rules tell apart; every other class is `other`. -/
inductive BidiClass where
  | leftToRight
  | rightToLeft
  | arabicLetter
  | europeanNumber
  | europeanSeparator
  | europeanTerminator
  | arabicNumber
  | commonSeparator
  | nonspacingMark
  | boundaryNeutral
  | otherNeutral
  | other
  deriving DecidableEq, Repr, Inhabited

/-- The class of a class name of the table. -/
def BidiClass.ofName : List Char → BidiClass
  | ['L'] => .leftToRight
  | ['R'] => .rightToLeft
  | ['A', 'L'] => .arabicLetter
  | ['E', 'N'] => .europeanNumber
  | ['E', 'S'] => .europeanSeparator
  | ['E', 'T'] => .europeanTerminator
  | ['A', 'N'] => .arabicNumber
  | ['C', 'S'] => .commonSeparator
  | ['N', 'S', 'M'] => .nonspacingMark
  | ['B', 'N'] => .boundaryNeutral
  | ['O', 'N'] => .otherNeutral
  | _ => .other

/-- Reads one run of the bidirectional classes. -/
def bidiEntry (word : String) : Option (Run BidiClass) :=
  let (digits, rest) := spanHex word
  (hexNumber? digits).map fun s => ⟨s, BidiClass.ofName rest⟩

/-- The bidirectional classes as runs. -/
def bidiClasses : Array (Run BidiClass) := readRuns bidiEntry bidiClassText

/-- The bidirectional class of a code point. -/
def bidiClass (c : Nat) : BidiClass := runValue bidiClasses .leftToRight c

/-- How a code point joins its neighbours in cursive writing. -/
inductive JoiningType where
  | nonJoining
  | joinCausing
  | dual
  | left
  | right
  | transparent
  deriving DecidableEq, Repr, Inhabited

/-- The joining type of a type letter of the table. -/
def JoiningType.ofLetter : List Char → JoiningType
  | ['C'] => .joinCausing
  | ['D'] => .dual
  | ['L'] => .left
  | ['R'] => .right
  | ['T'] => .transparent
  | _ => .nonJoining

/-- Reads one run of the joining types. -/
def joiningEntry (word : String) : Option (Run JoiningType) :=
  let (digits, rest) := spanHex word
  (hexNumber? digits).map fun s => ⟨s, JoiningType.ofLetter rest⟩

/-- The joining types as runs. -/
def joiningTypes : Array (Run JoiningType) := readRuns joiningEntry joiningTypeText

/-- The joining type of a code point. -/
def joiningType (c : Nat) : JoiningType := runValue joiningTypes .nonJoining c

/-! ## The rules -/

/-- Whether a class makes a domain name bidirectional. -/
def marksBidiDomain : BidiClass → Bool
  | .rightToLeft | .arabicLetter | .arabicNumber => true
  | _ => false

/-- Whether a domain name, as its labels, is a bidirectional domain name. No ASCII code point
has a class that makes it one, so ASCII is not looked up. -/
def isBidiDomain (labels : List (List Nat)) : Bool :=
  labels.any (fun label => label.any (fun c => 0x80 ≤ c && marksBidiDomain (bidiClass c)))

/-- Whether a class may stand in a left-to-right label. -/
def inLeftToRight : BidiClass → Bool
  | .leftToRight | .europeanNumber | .europeanSeparator | .commonSeparator
  | .europeanTerminator | .otherNeutral | .boundaryNeutral | .nonspacingMark => true
  | _ => false

/-- Whether a class may stand in a right-to-left label. -/
def inRightToLeft : BidiClass → Bool
  | .rightToLeft | .arabicLetter | .arabicNumber | .europeanNumber | .europeanSeparator
  | .commonSeparator | .europeanTerminator | .otherNeutral | .boundaryNeutral
  | .nonspacingMark => true
  | _ => false

/-- The class of the last code point of a label that is not a mark, if there is one. -/
def lastUnmarked (classes : List BidiClass) : Option BidiClass :=
  (classes.reverse.dropWhile (· = .nonspacingMark)).head?

/-- Whether a left-to-right label may end in a class. -/
def endsLeftToRight : Option BidiClass → Bool
  | some .leftToRight | some .europeanNumber => true
  | _ => false

/-- Whether a right-to-left label may end in a class. -/
def endsRightToLeft : Option BidiClass → Bool
  | some .rightToLeft | some .arabicLetter | some .europeanNumber | some .arabicNumber => true
  | _ => false

/-- Whether one label of a bidirectional domain name reads in one direction. -/
def labelReadsOneWay (label : List Nat) : Bool :=
  let classes := label.map bidiClass
  match classes with
  | [] => true
  | .leftToRight :: _ => classes.all inLeftToRight && endsLeftToRight (lastUnmarked classes)
  | .rightToLeft :: _ | .arabicLetter :: _ =>
    classes.all inRightToLeft && endsRightToLeft (lastUnmarked classes) &&
      !(classes.contains .europeanNumber && classes.contains .arabicNumber)
  | _ => false

/-- Whether a domain name, as its labels, satisfies the rules for right-to-left text: it is not
bidirectional, or every label reads in one direction. -/
def domainReadsOneWay (labels : List (List Nat)) : Bool :=
  !isBidiDomain labels || labels.all labelReadsOneWay

end WriteAccess.Url.Bidi
