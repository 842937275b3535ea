import WriteAccess.Access.List
import WriteAccess.Event
import WriteAccess.Failure
import WriteAccess.Json.Reader

/-!
# Access pages

One page of the access listing the service returns: `{"links": {"next": …}, "data": [entries]}`,
where each entry is `{"permission": text, "resourceDefinitions": [values]}`. `data` and
`permission` are required; `links`, `next` and `resourceDefinitions` may be missing, and `next`
may be null. Unknown keys are skipped, and a record may also be written as an array of its
fields.

An entry whose permission does not parse is left out of the page's grants, with a warning.
-/

namespace WriteAccess

open Json

namespace AccessPage

/-- The shape of one entry. -/
def entryShape : Shape :=
  .record "AccessEntry" [("permission", .string, false),
    ("resourceDefinitions", .sequence .any, true)]

/-- The shape of the links. -/
def linksShape : Shape := .record "PageLinks" [("next", .optional .string, true)]

/-- The shape of a page. -/
def shape : Shape :=
  .record "AccessPage" [("links", linksShape, true), ("data", .sequence entryShape, false)]

/-- The link to the next page of a decoded page, if any. -/
def next (page : Value) : Option String :=
  ((page.get? "links").bind (·.get? "next")).bind Value.asString?

/-- The items of an array value. -/
def items : Value → List Value
  | .array vs => vs
  | _ => []

/-- The event that reports a skipped entry. -/
def skippedEvent (e : RbacError) : Event :=
  Event.of .accessList .warn "skipping unparsable rbac grant" [("error", .text e.message)]

/-- The grant of a decoded entry, or the error that makes it skipped. -/
def grantOf (entry : Value) : Except RbacError Grant :=
  let text := ((entry.get? "permission").bind Value.asString?).getD ""
  match Permission.read text with
  | .ok p => .ok ⟨p, items ((entry.get? "resourceDefinitions").getD (.array []))⟩
  | .error e => .error e

/-- The grants of a decoded page, in order, and the warnings for the entries skipped. -/
def grants (page : Value) : List Grant × List Event :=
  ((items ((page.get? "data").getD (.array []))).map grantOf).foldr
    (fun r (gs, es) =>
      match r with
      | .ok g => (g :: gs, es)
      | .error e => (gs, skippedEvent e :: es))
    ([], [])

end AccessPage

end WriteAccess
