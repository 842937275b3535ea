import WriteAccess.Numeric.Binary64

/-!
# JSON values

A JSON value as documents are held here: numbers sorted into the three classes a reader tells
apart (an integer of 64 bits without sign, a negative integer of 64 bits, a binary64 float), and
objects kept as maps, sorted by key with one member per key.

Reading an object into a map keeps the last member of a repeated key at the place its key sorts
to, so two texts that differ only in the order of distinct keys give the same value.
-/

namespace WriteAccess.Json

open WriteAccess.Numeric

/-- A JSON number: a natural number below `2^64`, a negative integer from `-2^63`, or a float. -/
inductive Number where
  | natural (n : Nat)
  | negative (n : Int)
  | float (x : Binary64)
  deriving DecidableEq, Repr

/-- A JSON value. The members of an object are sorted by key, each key once. -/
inductive Value where
  | null
  | bool (b : Bool)
  | number (n : Number)
  | string (s : String)
  | array (items : List Value)
  | object (members : List (String × Value))
  deriving Repr, Inhabited

namespace Value

/-- Adds a member to a sorted map, replacing the value of an equal key. -/
def insertMember (k : String) (v : Value) : List (String × Value) → List (String × Value)
  | [] => [(k, v)]
  | (k', v') :: rest =>
    if k < k' then (k, v) :: (k', v') :: rest
    else if k = k' then (k, v) :: rest
    else (k', v') :: insertMember k v rest

/-- The sorted map of a list of members, a later member of a key replacing an earlier one. -/
def ofMembers (members : List (String × Value)) : Value :=
  .object (members.foldl (fun acc kv => insertMember kv.1 kv.2 acc) [])

/-- The value of a key in a list of members. -/
def lookupMember (k : String) : List (String × Value) → Option Value
  | [] => none
  | (k', v) :: rest => if k = k' then some v else lookupMember k rest

/-- The member `k` of an object, if the value is an object that has one. -/
def get? (v : Value) (k : String) : Option Value :=
  match v with
  | .object ms => lookupMember k ms
  | _ => none

/-- A string value as text. -/
def asString? : Value → Option String
  | .string s => some s
  | _ => none

/-- The kind of a value in one word, as a bag of request values names it. -/
def kindName : Value → String
  | .null => "null"
  | .bool _ => "boolean"
  | .number _ => "number"
  | .string _ => "string"
  | .array _ => "array"
  | .object _ => "object"

/-- A natural-number value. -/
def nat (n : Nat) : Value := .number (.natural n)

/-- A string value, or null. -/
def optString : Option String → Value
  | some s => .string s
  | none => .null

end Value

end WriteAccess.Json
