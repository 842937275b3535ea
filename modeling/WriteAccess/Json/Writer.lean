import WriteAccess.Json.NumberText

/-!
# Writing JSON text

The compact text of a value: no blanks between tokens, members in the order the value holds
them, numbers as `Number.render` writes them. In strings only the quote, the backslash and the
control characters are escaped: backspace, tab, line feed, form feed and carriage return by their
letters, the other controls as `\u00xx` with lowercase hex digits. Everything else, the solidus
and non-ASCII characters included, is written as it is.
-/

namespace WriteAccess.Json

/-- How one character is written inside a JSON string. -/
def escapeChar (c : Char) : String :=
  if c = '"' then "\\\""
  else if c = '\\' then "\\\\"
  else if c = '\x08' then "\\b"
  else if c = '\t' then "\\t"
  else if c = '\n' then "\\n"
  else if c = '\x0c' then "\\f"
  else if c = '\r' then "\\r"
  else if c.toNat < 0x20 then
    let h := Nat.toDigits 16 c.toNat
    "\\u" ++ String.ofList (List.replicate (4 - h.length) '0' ++ h)
  else String.singleton c

/-- A JSON string literal. -/
def quote (s : String) : String :=
  "\"" ++ String.join (s.toList.map escapeChar) ++ "\""

mutual

/-- The compact text of a value. -/
def Value.write : Value → String
  | .null => "null"
  | .bool true => "true"
  | .bool false => "false"
  | .number n => n.render
  | .string s => quote s
  | .array items => "[" ++ Value.writeItems items ++ "]"
  | .object members => "\x7b" ++ Value.writeMembers members ++ "\x7d"

/-- Array elements, comma-separated. -/
def Value.writeItems : List Value → String
  | [] => ""
  | [v] => v.write
  | v :: rest => v.write ++ "," ++ Value.writeItems rest

/-- Object members as `"key":value`, comma-separated. -/
def Value.writeMembers : List (String × Value) → String
  | [] => ""
  | [(k, v)] => quote k ++ ":" ++ v.write
  | (k, v) :: rest => quote k ++ ":" ++ v.write ++ "," ++ Value.writeMembers rest

end

example : (Value.object [("a", .array [.null, .bool true]), ("b", .string "x\n\x01/é")]).write =
    "\x7b\"a\":[null,true],\"b\":\"x\\n\\u0001/é\"\x7d" := by decide +kernel

end WriteAccess.Json
