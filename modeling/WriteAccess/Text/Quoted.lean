import WriteAccess.Text.Printable

/-!
# Quoted text for diagnostics

Text shown to a reader inside double quotes, so that every character can be seen: the quote and
the backslash are escaped with a backslash, as are NUL, tab, carriage return and line feed
(`\0`, `\t`, `\r`, `\n`); a character that prints nothing visible, or that would attach to the
character before it, is written `\u{hex}` with lowercase hex digits; every other character,
non-ASCII included, stands as it is.
-/

namespace WriteAccess.Text

/-- The escape `\u{hex}` of a code point, in lowercase hex without leading zeros. -/
def unicodeEscape (c : Char) : String :=
  "\\u" ++ "\x7b" ++ String.ofList (Nat.toDigits 16 c.toNat) ++ "\x7d"

/-- How one character is written between double quotes. -/
def quoteChar (c : Char) : String :=
  if c = '\x00' then "\\0"
  else if c = '\t' then "\\t"
  else if c = '\r' then "\\r"
  else if c = '\n' then "\\n"
  else if c = '\\' then "\\\\"
  else if c = '"' then "\\\""
  else if isGraphemeExtend c then unicodeEscape c
  else if isPrintable c then String.singleton c
  else unicodeEscape c

/-- Text in double quotes, each character written as `quoteChar` says. -/
def quoted (s : String) : String :=
  "\"" ++ String.join (s.toList.map quoteChar) ++ "\""

/-- An optional text as a diagnostic shows it: `None`, or `Some("…")` around the quoted text. -/
def quotedOption : Option String → String
  | none => "None"
  | some s => "Some(" ++ quoted s ++ ")"

example : quoted "r\"\\\n\x01日本" = "\"r\\\"\\\\\\n\\u{1}日本\"" := by decide +kernel

end WriteAccess.Text
