import WriteAccess.Identity
import WriteAccess.Proofs.ShapeFit

/-!
# Reading an identity document

An identity document decodes exactly when it fits the document shape: `{"identity": body}`, or
`[body]`, where every field of the body may be missing or null and otherwise has its kind — text
for `org_id` and `account_number`, a record `{org_id}` for `internal`, `{username, is_org_admin}`
for `user` (with `is_org_admin` a boolean, never null) and `{cn, cert_type, cluster_id}` for
`system`, each record written as an object or as an array of its fields in order.

What it decodes to is read off the document as written. A body whose `system` is present and not
null is a system principal, with the system's name, certificate type and cluster; any other body
is a user principal, with the account number, the user's name, and administrator rights only when
the user says `is_org_admin: true`. The tenant is the top-level `org_id` when it is a non-empty
text, and otherwise the one under `internal`, empty or missing as it may be.
-/

namespace WriteAccess

namespace Identity

open Json Shape

/-- The field `k` of a value written for a record of the given shape when it is there and not
null. -/
def presentField? (shape : Shape) (v : Value) (k : String) : Option Value :=
  match shape.field? v k with
  | some .null => none
  | r => r

/-- The text of field `k` of a value written for a record of the given shape. -/
def textOf? (shape : Shape) (v : Value) (k : String) : Option String :=
  (shape.field? v k).bind Value.asString?

/-! ## Decoded fields -/

theorem decode_optText {x d : Value} (h : optText.decode x = .ok d) : d.asString? = x.asString? := by
  unfold optText at h
  have hfit := (decode_ok_iff_fits _ _).1 ⟨d, h⟩
  cases hfit with
  | null => rw [Shape.decode.eq_3] at h; cases h; rfl
  | present hinner =>
    cases hinner with
    | string s =>
      rw [Shape.decode.eq_4 _ _ (by simp), Shape.decode] at h
      cases h
      rfl

theorem decode_boolean {x d : Value} (h : Shape.boolean.decode x = .ok d) : d = x := by
  have hfit := (decode_ok_iff_fits _ _).1 ⟨d, h⟩
  cases hfit with
  | boolean b => simp only [Shape.decode, Except.ok.injEq] at h; exact h.symm

/-- A decoded text field of a record holds the text the record was written with there. -/
theorem textField_of_decode {shape : Shape} {v d : Value} (h : shape.decode v = .ok d)
    {name : String} {fields : List (String × Shape × Bool)} (hshape : shape = .record name fields)
    (hnodup : (fields.map Prod.fst).Nodup) {k : String} {opt : Bool}
    (hk : findField k fields = some (optText, opt)) : textField d k = textOf? shape v k := by
  subst hshape
  have hfield := decode_record_field h hnodup hk
  unfold textField textOf?
  simp only [field?]
  cases hx : fieldValue? fields v k with
  | some x =>
    simp only [hx] at hfield
    obtain ⟨d', hd', hget⟩ := hfield
    simp [hget, decode_optText hd']
  | none =>
    simp only [hx] at hfield
    simp [hfield]

/-- A decoded optional record field of a record is present and not null exactly when the record
was written with a value there that is not null, and then it is that value decoded. -/
theorem recordField_of_decode {shape : Shape} {v d : Value} (h : shape.decode v = .ok d)
    {name : String} {fields : List (String × Shape × Bool)} (hshape : shape = .record name fields)
    (hnodup : (fields.map Prod.fst).Nodup) {k : String}
    {inner : Shape} {opt : Bool} (hk : findField k fields = some (.optional inner, opt))
    {name' : String} {fields' : List (String × Shape × Bool)}
    (hinner : inner = .record name' fields') :
    match presentField? shape v k with
    | some x => ∃ r, inner.decode x = .ok r ∧ recordField d k = some r
    | none => recordField d k = none := by
  subst hshape hinner
  have hfield := decode_record_field h hnodup hk
  unfold presentField? recordField
  simp only [field?]
  cases hx : fieldValue? fields v k with
  | none => simp only [hx] at hfield; simp [hfield]
  | some x =>
    simp only [hx] at hfield
    obtain ⟨d', hd', hget⟩ := hfield
    by_cases hnull : x = .null
    · subst hnull
      rw [Shape.decode.eq_3] at hd'
      cases hd'
      simp [hget]
    · rw [Shape.decode.eq_4 _ _ hnull] at hd'
      obtain ⟨ms, rfl⟩ := decode_record_object hd'
      cases x <;> first | exact absurd rfl hnull | exact ⟨_, hd', by simp [hget]⟩

/-- A decoded boolean field of a record holds the value the record was written with there. -/
theorem boolField_of_decode {shape : Shape} {v d : Value} (h : shape.decode v = .ok d)
    {name : String} {fields : List (String × Shape × Bool)} (hshape : shape = .record name fields)
    (hnodup : (fields.map Prod.fst).Nodup) {k : String} {opt : Bool}
    (hk : findField k fields = some (.boolean, opt)) : d.get? k = shape.field? v k := by
  subst hshape
  have hfield := decode_record_field h hnodup hk
  simp only [field?]
  cases hx : fieldValue? fields v k with
  | some x =>
    simp only [hx] at hfield
    obtain ⟨d', hd', hget⟩ := hfield
    rw [hget, decode_boolean hd']
  | none =>
    simp only [hx] at hfield
    exact hfield

/-- Reading a field of an optional record field of a decoded record is reading it off the value
the record was written with, when each record read agrees with the value it was decoded from. -/
theorem recordField_bind_of_decode {shape inner : Shape} {v d : Value} (h : shape.decode v = .ok d)
    {name : String} {fields : List (String × Shape × Bool)} (hshape : shape = .record name fields)
    (hnodup : (fields.map Prod.fst).Nodup) {k : String} {opt : Bool}
    (hk : findField k fields = some (.optional inner, opt)) {name' : String}
    {fields' : List (String × Shape × Bool)} (hinner : inner = .record name' fields')
    {α : Type} {read : Value → Option α} {readWritten : Value → Option α}
    (hread : ∀ x r, inner.decode x = .ok r → read r = readWritten x) :
    (recordField d k).bind read = (presentField? shape v k).bind readWritten := by
  have hrecord := recordField_of_decode h hshape hnodup hk hinner
  cases hp : presentField? shape v k with
  | none => simp only [hp] at hrecord; simp [hrecord]
  | some x =>
    simp only [hp] at hrecord
    obtain ⟨r, hr, hget⟩ := hrecord
    simp [hget, hread x r hr]

/-! ## The identity of a body -/

/-- What an identity says, read off the body of its document as written: its tenant, and the
principal with its fields. -/
def Describes (b : Value) (i : Identity) : Prop :=
  i.orgId = ((textOf? bodyShape b "org_id").filter (· ≠ "")).or
      ((presentField? bodyShape b "internal").bind (textOf? internalShape · "org_id")) ∧
  match i with
  | .system p => ∃ sys, presentField? bodyShape b "system" = some sys ∧
      p.commonName = textOf? systemShape sys "cn" ∧
      p.certType = textOf? systemShape sys "cert_type" ∧
      p.clusterId = textOf? systemShape sys "cluster_id"
  | .user p => presentField? bodyShape b "system" = none ∧
      p.accountNumber = textOf? bodyShape b "account_number" ∧
      p.username = (presentField? bodyShape b "user").bind (textOf? userShape · "username") ∧
      (p.isOrgAdmin = true ↔ ∃ u, presentField? bodyShape b "user" = some u ∧
        userShape.field? u "is_org_admin" = some (.bool true))

theorem bodyFields_nodup :
    ([("org_id", optText, true), ("account_number", optText, true),
      ("internal", Shape.optional internalShape, true), ("user", Shape.optional userShape, true),
      ("system", Shape.optional systemShape, true)].map Prod.fst).Nodup := by
  decide

/-- The identity of a decoded body is described by the body as written. -/
theorem ofBody_describes {b db : Value} (h : bodyShape.decode b = .ok db) :
    Describes b (ofBody db) := by
  have horg : textField db "org_id" = textOf? bodyShape b "org_id" :=
    textField_of_decode h rfl bodyFields_nodup rfl
  have hinternal : (recordField db "internal").bind (textField · "org_id") =
      (presentField? bodyShape b "internal").bind (textOf? internalShape · "org_id") :=
    recordField_bind_of_decode h rfl bodyFields_nodup rfl rfl fun _ _ hr =>
      textField_of_decode hr rfl (by decide) rfl
  -- the tenant is worked out before the principal is chosen, the same for both
  have htenant : (ofBody db).orgId = ((textOf? bodyShape b "org_id").filter (· ≠ "")).or
      ((presentField? bodyShape b "internal").bind (textOf? internalShape · "org_id")) := by
    have horgId : (ofBody db).orgId = ((textField db "org_id").filter (· ≠ "") <|>
        (recordField db "internal").bind (textField · "org_id")) := by
      unfold ofBody
      split <;> rfl
    rw [horgId, horg, hinternal]
    cases (textOf? bodyShape b "org_id").filter (· ≠ "") <;> rfl
  refine ⟨htenant, ?_⟩
  have hsystem := recordField_of_decode h rfl bodyFields_nodup (k := "system") rfl rfl
  cases hsys : presentField? bodyShape b "system" with
  | some sys =>
    simp only [hsys] at hsystem
    obtain ⟨r, hr, hget⟩ := hsystem
    have hsystemNodup : (["cn", "cert_type", "cluster_id"]).Nodup := by decide
    simp only [ofBody, hget]
    exact ⟨sys, rfl, textField_of_decode hr rfl hsystemNodup rfl,
      textField_of_decode hr rfl hsystemNodup rfl, textField_of_decode hr rfl hsystemNodup rfl⟩
  | none =>
    simp only [hsys] at hsystem
    simp only [ofBody, hsystem]
    refine ⟨trivial, textField_of_decode h rfl bodyFields_nodup rfl,
      recordField_bind_of_decode h rfl bodyFields_nodup rfl rfl fun _ _ hr =>
        textField_of_decode hr rfl (by decide) rfl, ?_⟩
    -- administrator rights: a user written with `is_org_admin: true`, and nothing else
    have huser := recordField_of_decode h rfl bodyFields_nodup (k := "user") rfl rfl
    cases hu : presentField? bodyShape b "user" with
    | none =>
      simp only [hu] at huser
      simp [huser]
    | some u =>
      simp only [hu] at huser
      obtain ⟨r, hr, hget⟩ := huser
      have hadmin : r.get? "is_org_admin" = userShape.field? u "is_org_admin" :=
        boolField_of_decode hr rfl (by decide) rfl
      simp only [hget, Option.bind_some, hadmin, Option.some.injEq, exists_eq_left']
      cases userShape.field? u "is_org_admin" with
      | none => simp
      | some x =>
        cases x with
        | bool flag => cases flag <;> simp
        | _ => simp

/-- A document without a body reads as an empty body: a user principal with nothing known. -/
theorem ofBody_null_describes : Describes .null (ofBody .null) := by
  simp [Describes, ofBody, orgId, textField, recordField, textOf?, presentField?, Shape.field?,
    fieldValue?, Value.get?, bodyShape]

/-! ## The document -/

/-- Reading an identity document. It succeeds exactly on the values that fit the document shape:
`{"identity": body}` or `[body]`, every field of the body optional and null or of its kind
(`org_id` and `account_number` texts, `internal` a record `{org_id}`, `user` a record
`{username, is_org_admin}` whose `is_org_admin` is a boolean and never null, `system` a record
`{cn, cert_type, cluster_id}`), each record an object (other keys ignored) or an array of its
fields in order. What it reads is described by the body as written: a system principal exactly
when `system` is present and not null, even `{}` or `[]`, with its name, certificate type and
cluster; otherwise a user principal with the account number, the user's name and administrator
rights exactly when the user says `is_org_admin: true`; and in both, the tenant is the top-level
`org_id` when it is a non-empty text and otherwise the one under `internal`. -/
theorem decode_reads_document (v : Value) :
    ((∃ i, decode v = .ok i) ↔ documentShape.Fits v) ∧
    ∀ i, decode v = .ok i → Describes ((documentShape.field? v "identity").getD .null) i := by
  have hdecode : ∀ i, decode v = .ok i ↔ ∃ doc, documentShape.decode v = .ok doc ∧
      ofBody ((doc.get? "identity").getD .null) = i := by
    intro i
    unfold decode
    cases documentShape.decode v <;> simp [bind, Except.bind, pure, Except.pure]
  refine ⟨?accepts, ?reads⟩
  case accepts =>
    rw [← decode_ok_iff_fits]
    simp only [hdecode]
    exact ⟨fun ⟨_, doc, hdoc, _⟩ => ⟨doc, hdoc⟩, fun ⟨doc, hdoc⟩ => ⟨_, doc, hdoc, rfl⟩⟩
  case reads =>
    intro i hi
    obtain ⟨doc, hdoc, rfl⟩ := (hdecode i).1 hi
    have hbody := decode_record_field hdoc (by decide) (k := "identity") rfl
    have hfield : documentShape.field? v "identity" =
        fieldValue? [("identity", bodyShape, false)] v "identity" := rfl
    rw [hfield]
    cases hb : fieldValue? [("identity", bodyShape, false)] v "identity" with
    | some b =>
      simp only [hb] at hbody
      obtain ⟨db, hdb, hget⟩ := hbody
      simpa [hget] using ofBody_describes hdb
    | none =>
      simp only [hb] at hbody
      simpa [hbody] using ofBody_null_describes

end Identity

end WriteAccess
