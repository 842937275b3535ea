import WriteAccess.Json.Error

/-!
# Document shapes

The shape a JSON document is expected to have: a string, a boolean, an optional value (null or
the inner shape), a sequence of one shape, a record of named fields, or any value at all.

A record is written either as an object, whose members are matched to fields by key (unknown
keys are skipped, a field may appear once), or as an array of the field values in declaration
order. A field marked optional may be missing and is then absent from the result; a missing
required field is an error. Decoding gives back the value with each record as an object of the
fields that were present.

`Shape.decode` checks a value that has already been read; `Json.Reader` checks a text while
reading it, with the same results and positions added to the errors.
-/

namespace WriteAccess.Json

/-- The shape expected of a JSON document. A record field is `(key, shape, optional)`. -/
inductive Shape where
  | string
  | boolean
  | optional (inner : Shape)
  | sequence (item : Shape)
  | record (name : String) (fields : List (String × Shape × Bool))
  | any
  deriving Repr, Inhabited

namespace Shape

/-- How an error names what a shape expects. -/
def expected : Shape → String
  | .string => "a string"
  | .boolean => "a boolean"
  | .optional inner => inner.expected
  | .sequence _ => "a sequence"
  | .record name _ => "struct " ++ name
  | .any => "any value"

/-- How an error names a record of `n` fields written as an array that is too short. -/
def recordWithElements (name : String) (n : Nat) : String :=
  "struct " ++ name ++ " with " ++ toString n ++ (if n = 1 then " element" else " elements")

/-- The greatest nesting of shapes inside a shape. -/
def depth : Shape → Nat
  | .string => 1
  | .boolean => 1
  | .optional inner => inner.depth + 1
  | .sequence item => item.depth + 1
  | .record _ fields => fieldsDepth fields + 1
  | .any => 1
where
  fieldsDepth : List (String × Shape × Bool) → Nat
    | [] => 0
    | (_, s, _) :: rest => max s.depth (fieldsDepth rest)

/-- The field of a record with the given key. -/
def findField (key : String) : List (String × Shape × Bool) → Option (Shape × Bool)
  | [] => none
  | (k, s, opt) :: rest => if k = key then some (s, opt) else findField key rest

/-- The first required field, in declaration order, that a list of present keys lacks. -/
def firstMissing (present : List String) : List (String × Shape × Bool) → Option String
  | [] => none
  | (k, _, opt) :: rest =>
    if !opt && !present.contains k then some k else firstMissing present rest

/-- An error without a position. -/
def fault (p : Problem) : Error := ⟨p, none⟩

mutual

/-- Checks a value against a shape, giving the value with each record as an object of its
present fields, or the first error met. -/
def decode : Shape → Value → Except Error Value
  | .string, .string s => .ok (.string s)
  | .boolean, .bool b => .ok (.bool b)
  | .optional _, .null => .ok .null
  | .optional inner, v => decode inner v
  | .sequence item, .array items => decodeItems item items []
  | .record _ fields, .object members => decodeMembers fields members [] []
  | .record name fields, .array items =>
    decodeElements name fields.length fields items 0 []
  | .any, v => .ok v
  | s, v => .error (fault (.invalidType (Unexpected.ofValue v) s.expected))
termination_by s v => (sizeOf v, sizeOf s)

/-- The items of a sequence, each checked against `item`, in order. -/
def decodeItems (item : Shape) : List Value → List Value → Except Error Value
  | [], acc => .ok (.array acc.reverse)
  | v :: rest, acc => do
    let d ← decode item v
    decodeItems item rest (d :: acc)
termination_by items => (sizeOf items, 0)

/-- The members of an object matched to the fields of a record, in the object's order. -/
def decodeMembers (fields : List (String × Shape × Bool)) :
    List (String × Value) → List String → List (String × Value) → Except Error Value
  | [], present, acc =>
    match firstMissing present fields with
    | some k => .error (fault (.missingField k))
    | none => .ok (.object acc)
  | (k, v) :: rest, present, acc =>
    match findField k fields with
    | some (s, _) => do
      let d ← decode s v
      decodeMembers fields rest (k :: present) (Value.insertMember k d acc)
    | none => decodeMembers fields rest present acc
termination_by members => (sizeOf members, 0)

/-- The elements of an array matched to the fields of a record in declaration order; `i` is the
position of the next field. A missing required field is reported at its position, after any
optional fields before it that were left out. -/
def decodeElements (name : String) (count : Nat) :
    List (String × Shape × Bool) → List Value → Nat → List (String × Value) →
      Except Error Value
  | [], [], _, acc => .ok (.object acc)
  | [], extra, i, _ => .error (fault (.invalidLength (i + extra.length) "fewer elements in array"))
  | (k, s, _) :: rest, v :: vs, i, acc => do
    let d ← decode s v
    decodeElements name count rest vs (i + 1) (Value.insertMember k d acc)
  | (_, _, opt) :: rest, [], i, acc =>
    if opt then decodeElements name count rest [] (i + 1) acc
    else .error (fault (.invalidLength i (recordWithElements name count)))
termination_by fields items => (sizeOf items, sizeOf fields)

end

end Shape

end WriteAccess.Json
