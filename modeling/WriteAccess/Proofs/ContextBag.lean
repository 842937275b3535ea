import Mathlib
import WriteAccess.Context

/-!
# Reading a request context from a bag

A bag is read by four keys. Each entry can be judged on its own (`entryFault`): an entry that is
missing or null is absent and fine; a present identity must decode as an identity document, and
the decoding fault is the reason when it does not; a present request id, key or header must be a
string, and the reason names the kind of value found instead.

The reading checks the keys in the order `identity`, `request_id`, `psk`, `x-rh-identity` and
reports the first key whose entry is at fault, with its reason. When no entry is at fault it gives
the values present, an empty string included. It looks at nothing but those four entries.
-/

namespace WriteAccess

namespace RequestContext

open Json

/-- The keys a bag is read by, in the order they are checked. -/
def bagKeys : List String := [identityKey, requestIdKey, pskKey, headerKey]

/-- What is wrong with the entry of a bag at a key, if anything: a present identity that does not
decode, with the decoding fault; a present entry of another key that is not a string, with the
kind of value found. -/
def entryFault (bag : Value) (key : String) : Option String :=
  match present bag key with
  | none => none
  | some v =>
    if key = identityKey then
      match Identity.decode v with
      | .ok _ => none
      | .error e => some e.message
    else
      match v with
      | .string _ => none
      | _ => some ("expected a string, found " ++ v.kindName)

/-- The first key, in checking order, whose entry is at fault, with the reason. -/
def firstFault (bag : Value) : Option (String × String) :=
  bagKeys.findSome? fun key => (entryFault bag key).map (key, ·)

/-- The context of the values a bag holds at the four keys. -/
def contents (bag : Value) : RequestContext :=
  ⟨(present bag requestIdKey).bind Value.asString?,
    ((present bag pskKey).bind Value.asString?).map Secret.mk,
    (present bag identityKey).bind fun v => (Identity.decode v).toOption,
    ((present bag headerKey).bind Value.asString?).map Secret.mk⟩

/-! ## One entry -/

/-- A missing entry and a null are alike absent. -/
theorem present_eq_none_iff (bag : Value) (key : String) :
    present bag key = none ↔ bag.get? key = none ∨ bag.get? key = some .null := by
  unfold present
  rcases bag.get? key with _ | (_ | _ | _ | _ | _ | _) <;> simp

/-- A present entry is never null. -/
theorem present_ne_null (bag : Value) (key : String) : present bag key ≠ some .null := by
  unfold present
  rcases bag.get? key with _ | (_ | _ | _ | _ | _ | _) <;> simp

theorem identityEntry_eq (bag : Value) :
    identityEntry bag =
      match entryFault bag identityKey with
      | some reason => .error (.malformedContext identityKey reason)
      | none => .ok ((present bag identityKey).bind fun v => (Identity.decode v).toOption) := by
  unfold identityEntry entryFault
  rcases present bag identityKey with _ | v
  · rfl
  · cases hdecode : Identity.decode v <;> simp [hdecode, Except.toOption]

theorem stringEntry_eq (bag : Value) {key : String} (hkey : key ≠ identityKey) :
    stringEntry bag key =
      match entryFault bag key with
      | some reason => .error (.malformedContext key reason)
      | none => .ok ((present bag key).bind Value.asString?) := by
  unfold stringEntry entryFault
  rcases present bag key with _ | (_ | _ | _ | _ | _ | _) <;> simp [hkey, Value.asString?]

/-- A text entry at fault is a present value of one of four kinds: never null, never a string. -/
theorem entryFault_kind {bag : Value} {key reason : String} (hkey : key ≠ identityKey)
    (h : entryFault bag key = some reason) :
    ∃ kind ∈ ["boolean", "number", "array", "object"], reason = "expected a string, found " ++ kind := by
  unfold entryFault at h
  have hnull := present_ne_null bag key
  rcases hp : present bag key with _ | (_ | _ | _ | _ | _ | _) <;>
    simp_all [Value.kindName]

/-! ## The whole bag -/

/-- Reading a bag reports its first fault, or gives its contents. -/
theorem ofBag_eq (bag : Value) :
    ofBag bag =
      match firstFault bag with
      | some (key, reason) => .error (.malformedContext key reason)
      | none => .ok (contents bag) := by
  have hrequest : requestIdKey ≠ identityKey := by decide
  have hpsk : pskKey ≠ identityKey := by decide
  have hheader : headerKey ≠ identityKey := by decide
  unfold ofBag
  rw [identityEntry_eq, stringEntry_eq bag hrequest, stringEntry_eq bag hpsk,
    stringEntry_eq bag hheader]
  simp only [firstFault, bagKeys, List.findSome?_cons, List.findSome?_nil]
  -- one case per entry, each at fault or not
  cases entryFault bag identityKey <;> cases entryFault bag requestIdKey <;>
    cases entryFault bag pskKey <;> cases entryFault bag headerKey <;> rfl

/-- The first fault is the fault of a key with none before it. -/
theorem firstFault_eq_some_iff {bag : Value} {key reason : String} :
    firstFault bag = some (key, reason) ↔
      ∃ before after, bagKeys = before ++ key :: after ∧
        (∀ k ∈ before, entryFault bag k = none) ∧ entryFault bag key = some reason := by
  unfold firstFault
  rw [List.findSome?_eq_some_iff]
  constructor
  · rintro ⟨before, k, after, hkeys, hk, hbefore⟩
    obtain ⟨r, hr, hkr⟩ := Option.map_eq_some_iff.1 hk
    simp only [Prod.mk.injEq] at hkr
    obtain ⟨rfl, rfl⟩ := hkr
    exact ⟨before, after, hkeys, fun k hk => by simpa using hbefore k hk, hr⟩
  · rintro ⟨before, after, hkeys, hbefore, hkey⟩
    exact ⟨before, key, after, hkeys, by simp [hkey], fun k hk => by simp [hbefore k hk]⟩

/-- No key is at fault exactly when no entry is. -/
theorem firstFault_eq_none_iff {bag : Value} :
    firstFault bag = none ↔ ∀ k ∈ bagKeys, entryFault bag k = none := by
  simp [firstFault, List.findSome?_eq_none_iff]

theorem ofBag_eq_error_iff {bag : Value} {key reason : String} :
    ofBag bag = .error (.malformedContext key reason) ↔ firstFault bag = some (key, reason) := by
  rw [ofBag_eq]
  rcases firstFault bag with _ | ⟨k, r⟩ <;> simp

/-- Every failure of the reading is a malformed entry. -/
theorem ofBag_error_malformed {bag : Value} {e : AuthzError} (h : ofBag bag = .error e) :
    ∃ key reason, e = .malformedContext key reason := by
  rw [ofBag_eq] at h
  rcases hfault : firstFault bag with _ | ⟨key, reason⟩ <;> simp [hfault] at h
  exact ⟨key, reason, h.symm⟩

theorem ofBag_eq_ok_iff {bag : Value} {c : RequestContext} :
    ofBag bag = .ok c ↔ firstFault bag = none ∧ c = contents bag := by
  rw [ofBag_eq]
  rcases firstFault bag with _ | ⟨key, reason⟩ <;> simp [eq_comm]

/-- The reading looks at nothing but the entries at the four keys. -/
theorem ofBag_congr {bag bag' : Value} (h : ∀ k ∈ bagKeys, bag'.get? k = bag.get? k) :
    ofBag bag' = ofBag bag := by
  have hpresent : ∀ k ∈ bagKeys, present bag' k = present bag k := fun k hk => by
    simp only [present, h k hk]
  simp only [bagKeys, List.mem_cons, List.not_mem_nil, or_false, forall_eq_or_imp,
    forall_eq] at hpresent
  obtain ⟨hidentity, hrequest, hpsk, hheader⟩ := hpresent
  simp only [ofBag, identityEntry, stringEntry, hidentity, hrequest, hpsk, hheader]

/-- Reading a bag checks `identity`, `request_id`, `psk` and `x-rh-identity` in that order, a
missing entry and a null alike absent. It fails exactly with the first entry at fault, naming its
key and its reason, the reason for a text entry being `expected a string, found` and one of
boolean, number, array and object; it succeeds exactly when no entry is at fault, with the values
present; and it looks at nothing but those four entries. -/
theorem ofBag_reports_first_fault :
    (∀ (bag : Value) (key : String),
      present bag key = none ↔ bag.get? key = none ∨ bag.get? key = some .null) ∧
    (∀ (bag : Value) (key reason : String),
      ofBag bag = .error (.malformedContext key reason) ↔
        ∃ before after, ["identity", "request_id", "psk", "x-rh-identity"] = before ++ key :: after ∧
          (∀ k ∈ before, entryFault bag k = none) ∧ entryFault bag key = some reason) ∧
    (∀ (bag : Value) (e : AuthzError), ofBag bag = .error e →
      ∃ key reason, e = .malformedContext key reason) ∧
    (∀ (bag : Value) (key reason : String), key ∈ ["request_id", "psk", "x-rh-identity"] →
      entryFault bag key = some reason →
        ∃ kind ∈ ["boolean", "number", "array", "object"],
          reason = "expected a string, found " ++ kind) ∧
    (∀ (bag : Value) (c : RequestContext),
      ofBag bag = .ok c ↔
        (∀ k ∈ ["identity", "request_id", "psk", "x-rh-identity"], entryFault bag k = none) ∧
          c = contents bag) ∧
    (∀ bag bag' : Value, (∀ k ∈ ["identity", "request_id", "psk", "x-rh-identity"],
      bag'.get? k = bag.get? k) → ofBag bag' = ofBag bag) := by
  refine ⟨present_eq_none_iff, fun bag key reason => ?first, fun bag e h => ofBag_error_malformed h,
    fun bag key reason hkey h => ?kind, fun bag c => ?contents, fun bag bag' h => ofBag_congr h⟩
  case first => rw [ofBag_eq_error_iff, firstFault_eq_some_iff]; rfl
  case kind =>
    -- none of the three text keys is the identity key
    have hne : key ≠ identityKey := by
      simp only [List.mem_cons, List.not_mem_nil, or_false] at hkey
      rcases hkey with rfl | rfl | rfl <;> decide
    exact entryFault_kind hne h
  case contents => rw [ofBag_eq_ok_iff, firstFault_eq_none_iff]; rfl

/-- A null is absent, and `request_id` is checked before `psk`, whatever the keys' order. -/
example : ofBag (.object [("identity", .null), ("psk", .nat 42), ("request_id", .bool true)]) =
    .error (.malformedContext "request_id" "expected a string, found boolean") := rfl

end RequestContext

end WriteAccess
