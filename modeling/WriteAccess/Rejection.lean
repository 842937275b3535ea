import WriteAccess.Json.Writer
import WriteAccess.Json.Shape

/-!
# Error documents

The body sent to a rejected caller: `{"errors": [{"detail": …, "status": …}]}`, written as
compact JSON with `detail` before `status`. A document is also read back from JSON, in the
object or the array form of its records.
-/

namespace WriteAccess

open Json

/-- One error of a document. -/
structure ErrorEntry where
  detail : String
  status : String
  deriving DecidableEq, Repr

/-- The body of a rejection. -/
structure ErrorDocument where
  errors : List ErrorEntry
  deriving DecidableEq, Repr

namespace ErrorDocument

/-- A document of one error. -/
def single (detail status : String) : ErrorDocument := ⟨[⟨detail, status⟩]⟩

/-- The status of a caller refused for want of a credential or a permission. -/
def unauthorizedStatus : String := "401"

/-- The document of an internal failure, which tells the caller nothing more. -/
def internal : ErrorDocument := single "Internal Server Error" "500"

/-- The compact JSON text of one entry. -/
def entryText (e : ErrorEntry) : String :=
  "\x7b\"detail\":" ++ quote e.detail ++ ",\"status\":" ++ quote e.status ++ "\x7d"

/-- The compact JSON text of a document. -/
def text (d : ErrorDocument) : String :=
  "\x7b\"errors\":[" ++ ",".intercalate (d.errors.map entryText) ++ "]\x7d"

/-- The shape of an entry. -/
def entryShape : Shape := .record "ErrorEntry" [("detail", .string, false), ("status", .string, false)]

/-- The shape of a document. -/
def shape : Shape := .record "ErrorDocument" [("errors", .sequence entryShape, false)]

/-- The entry of a decoded record. -/
def entryOf (v : Value) : ErrorEntry :=
  ⟨((v.get? "detail").bind Value.asString?).getD "", ((v.get? "status").bind Value.asString?).getD ""⟩

/-- Reads a document from a JSON value. -/
def decode (v : Value) : Except Error ErrorDocument := do
  let d ← shape.decode v
  match d.get? "errors" with
  | some (.array items) => return ⟨items.map entryOf⟩
  | _ => return ⟨[]⟩

example : internal.text = "\x7b\"errors\":[\x7b\"detail\":\"Internal Server Error\",\"status\":\"500\"\x7d]\x7d" := by
  decide +kernel

end ErrorDocument

end WriteAccess
