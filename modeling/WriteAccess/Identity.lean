import WriteAccess.Json.Shape

/-!
# Identities

Who a request says it comes from: a system principal (a certificate-holding machine) or a user
principal. Each carries the tenant (`org_id`) when the document names one.

The identity document has the shape `{"identity": body}`. Every field of the body is optional
and may be null: `org_id`, `account_number`, `internal: {org_id}`, `user: {username,
is_org_admin}` and `system: {cn, cert_type, cluster_id}`; only `is_org_admin` refuses null. A
body whose `system` is present and not null is a system principal, whatever else it holds; any
other body is a user principal. The tenant is the top-level `org_id` when it is a non-empty text,
and otherwise the one under `internal`, which may be empty.
-/

namespace WriteAccess

open Json

/-- A machine identified by a certificate. -/
structure SystemPrincipal where
  orgId : Option String
  commonName : Option String
  certType : Option String
  clusterId : Option String
  deriving DecidableEq, Repr

/-- A person. -/
structure UserPrincipal where
  orgId : Option String
  accountNumber : Option String
  username : Option String
  isOrgAdmin : Bool
  deriving DecidableEq, Repr

/-- The principal a request identifies. -/
inductive Identity where
  | system (p : SystemPrincipal)
  | user (p : UserPrincipal)
  deriving DecidableEq, Repr

namespace Identity

/-- Whether the principal is a system. -/
def isSystem : Identity → Bool
  | .system _ => true
  | .user _ => false

/-- The tenant of the principal. -/
def orgId : Identity → Option String
  | .system p => p.orgId
  | .user p => p.orgId

/-- An optional text field. -/
def optText : Shape := .optional .string

/-- The shape of `internal`. -/
def internalShape : Shape := .record "InternalBody" [("org_id", optText, true)]

/-- The shape of `user`. -/
def userShape : Shape :=
  .record "UserBody" [("username", optText, true), ("is_org_admin", .boolean, true)]

/-- The shape of `system`. -/
def systemShape : Shape :=
  .record "SystemBody" [("cn", optText, true), ("cert_type", optText, true),
    ("cluster_id", optText, true)]

/-- The shape of the body of an identity document. -/
def bodyShape : Shape :=
  .record "IdentityBody" [("org_id", optText, true), ("account_number", optText, true),
    ("internal", .optional internalShape, true), ("user", .optional userShape, true),
    ("system", .optional systemShape, true)]

/-- The shape of an identity document. -/
def documentShape : Shape := .record "IdentityDocument" [("identity", bodyShape, false)]

/-- A text field of a decoded record; absent and null give `none`. -/
def textField (v : Value) (key : String) : Option String := (v.get? key).bind Value.asString?

/-- A record field of a decoded record that is present and not null. -/
def recordField (v : Value) (key : String) : Option Value :=
  match v.get? key with
  | some .null => none
  | some r => some r
  | none => none

/-- The identity of a decoded document body. -/
def ofBody (body : Value) : Identity :=
  let top := (textField body "org_id").filter (· ≠ "")
  let orgId := top <|> (recordField body "internal").bind (textField · "org_id")
  match recordField body "system" with
  | some sys => .system ⟨orgId, textField sys "cn", textField sys "cert_type",
      textField sys "cluster_id"⟩
  | none =>
    let user := recordField body "user"
    .user ⟨orgId, textField body "account_number", user.bind (textField · "username"),
      match user.bind (·.get? "is_org_admin") with
      | some (.bool b) => b
      | _ => false⟩

/-- Reads an identity from a JSON value, or the first fault found in it. -/
def decode (v : Value) : Except Error Identity := do
  let doc ← documentShape.decode v
  return ofBody ((doc.get? "identity").getD .null)

end Identity

end WriteAccess
