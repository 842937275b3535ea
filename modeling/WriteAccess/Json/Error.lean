import WriteAccess.Json.NumberText
import WriteAccess.Text.Quoted

/-!
# Decoding errors

Why a JSON text or value does not decode as a document: a syntax error in the text, or a value of
the wrong kind, length or content for the shape expected of it. Errors found while reading a
text carry the line and the column (a byte count) where they were noticed; errors found in an
already-read value carry no position.

`Error.message` gives each error its wording, in one place.
-/

namespace WriteAccess.Json

open WriteAccess.Numeric

/-- A fault in the syntax of a JSON text. -/
inductive SyntaxCode where
  | eofWhileParsingList
  | eofWhileParsingObject
  | eofWhileParsingString
  | eofWhileParsingValue
  | expectedColon
  | expectedListCommaOrEnd
  | expectedObjectCommaOrEnd
  | expectedSomeIdent
  | expectedSomeValue
  | invalidEscape
  | invalidNumber
  | numberOutOfRange
  | invalidUnicodeCodePoint
  | controlCharacterWhileParsingString
  | keyMustBeAString
  | loneLeadingSurrogateInHexEscape
  | trailingComma
  | trailingCharacters
  | unexpectedEndOfHexEscape
  | recursionLimitExceeded
  deriving DecidableEq, Repr

/-- The wording of a syntax fault. -/
def SyntaxCode.message : SyntaxCode → String
  | .eofWhileParsingList => "EOF while parsing a list"
  | .eofWhileParsingObject => "EOF while parsing an object"
  | .eofWhileParsingString => "EOF while parsing a string"
  | .eofWhileParsingValue => "EOF while parsing a value"
  | .expectedColon => "expected `:`"
  | .expectedListCommaOrEnd => "expected `,` or `]`"
  | .expectedObjectCommaOrEnd => "expected `,` or `\x7d`"
  | .expectedSomeIdent => "expected ident"
  | .expectedSomeValue => "expected value"
  | .invalidEscape => "invalid escape"
  | .invalidNumber => "invalid number"
  | .numberOutOfRange => "number out of range"
  | .invalidUnicodeCodePoint => "invalid unicode code point"
  | .controlCharacterWhileParsingString =>
    "control character (\\u0000-\\u001F) found while parsing a string"
  | .keyMustBeAString => "key must be a string"
  | .loneLeadingSurrogateInHexEscape => "lone leading surrogate in hex escape"
  | .trailingComma => "trailing comma"
  | .trailingCharacters => "trailing characters"
  | .unexpectedEndOfHexEscape => "unexpected end of hex escape"
  | .recursionLimitExceeded => "recursion limit exceeded"

/-- What was found where something else was expected. -/
inductive Unexpected where
  | bool (b : Bool)
  | unsigned (n : Nat)
  | signed (n : Int)
  | float (x : Binary64)
  | str (s : String)
  | unit
  | seq
  | map
  deriving Repr

/-- The wording of what was found. -/
def Unexpected.message : Unexpected → String
  | .bool b => "boolean `" ++ toString b ++ "`"
  | .unsigned n => "integer `" ++ toString n ++ "`"
  | .signed n => "integer `" ++ toString n ++ "`"
  | .float x => "floating point `" ++ x.render ++ "`"
  | .str s => "string " ++ Text.quoted s
  | .unit => "null"
  | .seq => "sequence"
  | .map => "map"

/-- What a value was found to be, by its kind and content. -/
def Unexpected.ofValue : Value → Unexpected
  | .null => .unit
  | .bool b => .bool b
  | .number (.natural n) => .unsigned n
  | .number (.negative n) => .signed n
  | .number (.float x) => .float x
  | .string s => .str s
  | .array _ => .seq
  | .object _ => .map

/-- Why a text or value does not decode. -/
inductive Problem where
  | malformed (code : SyntaxCode)
  | invalidType (found : Unexpected) (expected : String)
  | invalidLength (length : Nat) (expected : String)
  | missingField (name : String)
  | duplicateField (name : String)
  deriving Repr

/-- The wording of a problem. -/
def Problem.message : Problem → String
  | .malformed code => code.message
  | .invalidType found expected =>
    "invalid type: " ++ found.message ++ ", expected " ++ expected
  | .invalidLength length expected =>
    "invalid length " ++ toString length ++ ", expected " ++ expected
  | .missingField name => "missing field `" ++ name ++ "`"
  | .duplicateField name => "duplicate field `" ++ name ++ "`"

/-- A line (from one) and a column (bytes after the line's start) of a text. -/
structure Position where
  line : Nat
  column : Nat
  deriving DecidableEq, Repr

/-- A decoding error: the problem, and where in the text it was noticed, if it came from one. -/
structure Error where
  problem : Problem
  position : Option Position
  deriving Repr

/-- The wording of a decoding error. -/
def Error.message (e : Error) : String :=
  match e.position with
  | none => e.problem.message
  | some p => e.problem.message ++ " at line " ++ toString p.line ++ " column " ++
      toString p.column

end WriteAccess.Json
