import Mathlib
import WriteAccess.Json.Shape

/-!
# What a document shape admits

`Shape.Fits` says declaratively which values a shape admits: a string or a boolean where one is
expected; null or the inner shape under `optional`; an array of fitting items for a sequence; and
a record written either as an object whose members under the record's keys fit their fields (each
such member, whatever else the object holds) and which has every required field, or as an array
of at most as many elements as the record has fields, each fitting the field at its position, the
fields past its end all optional.

Decoding a value succeeds exactly on the values that fit (`decode_ok_iff_fits`). A decoded record
holds, for each of its fields, the decoding of the value the record was written with there: the
last member of that key of an object, or the element at the field's position of an array
(`decode_record_field`).
-/

namespace WriteAccess.Json

namespace Shape

mutual

/-- A value that a shape admits. -/
inductive Fits : Shape → Value → Prop
  | string (s : String) : Fits .string (.string s)
  | boolean (b : Bool) : Fits .boolean (.bool b)
  | null (inner : Shape) : Fits (.optional inner) .null
  | present {inner : Shape} {v : Value} : Fits inner v → Fits (.optional inner) v
  | sequence {item : Shape} {items : List Value} :
      (∀ x ∈ items, Fits item x) → Fits (.sequence item) (.array items)
  | object {name : String} {fields : List (String × Shape × Bool)}
      {members : List (String × Value)} :
      (∀ k x, (k, x) ∈ members → ∀ s opt, findField k fields = some (s, opt) → Fits s x) →
      (∀ k s, (k, s, false) ∈ fields → ∃ x, (k, x) ∈ members) →
      Fits (.record name fields) (.object members)
  | elements {name : String} {fields : List (String × Shape × Bool)} {items : List Value} :
      FitsElements fields items → Fits (.record name fields) (.array items)
  | any (v : Value) : Fits .any v

/-- Array elements that fit the fields of a record in order, the fields past the last element
all optional. -/
inductive FitsElements : List (String × Shape × Bool) → List Value → Prop
  | nil : FitsElements [] []
  | cons {k : String} {s : Shape} {opt : Bool} {rest : List (String × Shape × Bool)} {v : Value}
      {vs : List Value} : Fits s v → FitsElements rest vs → FitsElements ((k, s, opt) :: rest) (v :: vs)
  | omitted {k : String} {s : Shape} {rest : List (String × Shape × Bool)} :
      FitsElements rest [] → FitsElements ((k, s, true) :: rest) []

end

/-! ## Small facts about the helpers of decoding -/

theorem firstMissing_eq_none_iff {present : List String} :
    ∀ {fields : List (String × Shape × Bool)},
      firstMissing present fields = none ↔ ∀ k s, (k, s, false) ∈ fields → k ∈ present
  | [] => by simp [firstMissing]
  | (k, s, opt) :: rest => by
    have ih := @firstMissing_eq_none_iff present rest
    rw [firstMissing]
    split
    · next hmissing =>
      -- a required field that no member named
      simp only [Bool.and_eq_true, Bool.not_eq_eq_eq_not, Bool.not_true] at hmissing
      obtain ⟨rfl, hk⟩ := hmissing
      simp only [reduceCtorEq, false_iff]
      intro h
      simp [h k s List.mem_cons_self] at hk
    · next hnot =>
      rw [ih]
      constructor
      · intro h k' s' hmem
        rcases List.mem_cons.1 hmem with heq | hmem
        · simp only [Prod.mk.injEq] at heq
          obtain ⟨rfl, rfl, rfl⟩ := heq
          simpa using hnot
        · exact h k' s' hmem
      · exact fun h k' s' hmem => h k' s' (List.mem_cons_of_mem _ hmem)

theorem findField_of_mem {key : String} {s : Shape} :
    ∀ {fields : List (String × Shape × Bool)}, (key, s, false) ∈ fields →
      ∃ s' opt, findField key fields = some (s', opt)
  | [], h => by simp at h
  | (k, s'', opt) :: rest, h => by
    rw [findField]
    split
    · exact ⟨_, _, rfl⟩
    · next hk =>
      rcases List.mem_cons.1 h with h | h
      · simp only [Prod.mk.injEq] at h
        exact absurd h.1.symm hk
      · exact findField_of_mem h

/-- A chained decoding succeeds when its first step does and the rest does on what it gave. -/
theorem exists_bind_eq_ok {α β : Type} {x : Except Error α} {f : α → Except Error β} :
    (∃ r, (x >>= f) = .ok r) ↔ ∃ a, x = .ok a ∧ ∃ r, f a = .ok r := by
  cases x with
  | error e => simp [bind, Except.bind]
  | ok a => simp [bind, Except.bind]

/-! ## The members of an object, one at a time

The two conditions that `Fits.object` puts on the members, taken apart at the first member as
decoding reads it: the members under known keys fit their fields, and every required field is
among the keys already read or the members left. -/

section Members

variable {fields : List (String × Shape × Bool)} {k : String} {v : Value}
  {rest : List (String × Value)}

/-- A first member under a known key fits that field, and the members after it fit theirs. -/
theorem membersFit_cons_of_findField {s : Shape} {opt : Bool}
    (hfield : findField k fields = some (s, opt)) :
    (∀ k' x, (k', x) ∈ (k, v) :: rest → ∀ s' opt', findField k' fields = some (s', opt') →
        Fits s' x) ↔
      Fits s v ∧ ∀ k' x, (k', x) ∈ rest → ∀ s' opt', findField k' fields = some (s', opt') →
        Fits s' x := by
  constructor
  · intro h
    exact ⟨h k v List.mem_cons_self s opt hfield,
      fun k' x hmem => h k' x (List.mem_cons_of_mem _ hmem)⟩
  · rintro ⟨hv, hrest⟩ k' x hmem s' opt' hfield'
    rcases List.mem_cons.1 hmem with heq | hmem
    · obtain ⟨rfl, rfl⟩ := Prod.mk.inj heq
      rw [hfield] at hfield'
      cases hfield'
      exact hv
    · exact hrest k' x hmem s' opt' hfield'

/-- A first member under a key that the record does not know has nothing to fit. -/
theorem membersFit_cons_of_unknown (hfield : findField k fields = none) :
    (∀ k' x, (k', x) ∈ (k, v) :: rest → ∀ s' opt', findField k' fields = some (s', opt') →
        Fits s' x) ↔
      ∀ k' x, (k', x) ∈ rest → ∀ s' opt', findField k' fields = some (s', opt') → Fits s' x := by
  constructor
  · exact fun h k' x hmem => h k' x (List.mem_cons_of_mem _ hmem)
  · intro hrest k' x hmem s' opt' hfield'
    rcases List.mem_cons.1 hmem with heq | hmem
    · obtain ⟨rfl, rfl⟩ := Prod.mk.inj heq
      rw [hfield] at hfield'
      cases hfield'
    · exact hrest k' x hmem s' opt' hfield'

/-- Reading the first member moves its key among the keys read. -/
theorem required_cons {present : List String} :
    (∀ k' s, (k', s, false) ∈ fields → k' ∈ present ∨ ∃ x, (k', x) ∈ (k, v) :: rest) ↔
      ∀ k' s, (k', s, false) ∈ fields → k' ∈ k :: present ∨ ∃ x, (k', x) ∈ rest := by
  refine forall₂_congr fun k' s => imp_congr_right fun _ => ?_
  simp only [List.mem_cons, Prod.mk.injEq]
  constructor
  · rintro (hp | ⟨x, ⟨rfl, rfl⟩ | hx⟩)
    · exact .inl (.inr hp)
    · exact .inl (.inl rfl)
    · exact .inr ⟨x, hx⟩
  · rintro ((rfl | hp) | ⟨x, hx⟩)
    · exact .inr ⟨v, .inl ⟨rfl, rfl⟩⟩
    · exact .inl hp
    · exact .inr ⟨x, .inr hx⟩

/-- A key that the record does not know names none of its required fields. -/
theorem required_of_unknown {present : List String} {left : String → Prop}
    (hfield : findField k fields = none) :
    (∀ k' s, (k', s, false) ∈ fields → k' ∈ k :: present ∨ left k') ↔
      ∀ k' s, (k', s, false) ∈ fields → k' ∈ present ∨ left k' := by
  refine forall₂_congr fun k' s => forall_congr' fun hreq => ?_
  have hne : k' ≠ k := by
    rintro rfl
    obtain ⟨s', opt', hknown⟩ := findField_of_mem hreq
    rw [hfield] at hknown
    cases hknown
  simp [hne]

end Members

/-! ## Decoding succeeds exactly on fitting values -/

/-- The four decoders, each against its declarative reading: a value, the elements of an array
written for a record, the members of an object written for a record, the items of a sequence. -/
theorem decode_fits_all :
    (∀ s v, (∃ d, decode s v = .ok d) ↔ Fits s v) ∧
    (∀ name count fields items i acc,
      (∃ d, decodeElements name count fields items i acc = .ok d) ↔ FitsElements fields items) ∧
    (∀ fields members present acc,
      (∃ d, decodeMembers fields members present acc = .ok d) ↔
        (∀ k x, (k, x) ∈ members → ∀ s opt, findField k fields = some (s, opt) → Fits s x) ∧
        (∀ k s, (k, s, false) ∈ fields → k ∈ present ∨ ∃ x, (k, x) ∈ members)) ∧
    (∀ item items acc, (∃ d, decodeItems item items acc = .ok d) ↔ ∀ x ∈ items, Fits item x) := by
  refine decode.mutual_induct _ _ _ _ ?string ?boolean ?null ?present ?sequence ?object ?elements
    ?any ?mismatch ?elementsDone ?elementsExtra ?elementsCons ?elementsOmitted ?elementsMissing
    ?membersMissing ?membersDone ?membersKnown ?membersUnknown ?itemsDone ?itemsCons
  case string => intro s; simp only [decode]; exact ⟨fun _ => .string s, fun _ => ⟨_, rfl⟩⟩
  case boolean => intro b; simp only [decode]; exact ⟨fun _ => .boolean b, fun _ => ⟨_, rfl⟩⟩
  case null => intro inner; simp only [decode]; exact ⟨fun _ => .null inner, fun _ => ⟨_, rfl⟩⟩
  case present =>
    intro inner v hne ih
    rw [decode.eq_4 v inner hne, ih]
    constructor
    · exact .present
    · intro h
      cases h with
      | null => exact absurd rfl hne
      | present h => exact h
  case sequence =>
    intro item items ih
    rw [decode, ih]
    constructor
    · exact .sequence
    · intro h
      cases h with
      | sequence h => exact h
  case object =>
    intro name fields members ih
    rw [decode, ih]
    constructor
    · rintro ⟨hmembers, hrequired⟩
      refine .object hmembers fun k s hk => ?_
      simpa using hrequired k s hk
    · intro h
      cases h with
      | object hmembers hrequired => exact ⟨hmembers, fun k s hk => Or.inr (hrequired k s hk)⟩
  case elements =>
    intro name fields items ih
    rw [decode, ih]
    constructor
    · exact .elements
    · intro h
      cases h with
      | elements h => exact h
  case any => intro v; simp only [decode]; exact ⟨fun _ => .any v, fun _ => ⟨_, rfl⟩⟩
  case mismatch =>
    intro s v hstring hboolean hnull hoptional hsequence hobject harray hany
    rw [decode.eq_9 s v hoptional hany hstring hboolean hnull hsequence hobject harray]
    simp only [reduceCtorEq, exists_false, false_iff]
    -- no rule of `Fits` applies to a pair that decoding refuses
    intro h
    cases h with
    | string x => exact hstring x rfl rfl
    | boolean b => exact hboolean b rfl rfl
    | null inner => exact hoptional inner rfl
    | present _ => exact hoptional _ rfl
    | sequence _ => exact hsequence _ _ rfl rfl
    | object _ _ => exact hobject _ _ _ rfl rfl
    | elements _ => exact harray _ _ _ rfl rfl
    | any _ => exact hany rfl
  case elementsDone =>
    intro name count i acc
    simp only [decodeElements]
    exact ⟨fun _ => .nil, fun _ => ⟨_, rfl⟩⟩
  case elementsExtra =>
    intro name count extra i acc hextra
    simp only [decodeElements, reduceCtorEq, exists_false, false_iff]
    rintro ⟨⟩
    exact hextra rfl
  case elementsCons =>
    intro name count k s opt rest v vs i acc ih ihrest
    rw [decodeElements, exists_bind_eq_ok]
    constructor
    · rintro ⟨d, hd, hrest⟩
      exact .cons (ih.1 ⟨d, hd⟩) ((ihrest d).1 hrest)
    · rintro (_ | ⟨hv, hrest⟩)
      obtain ⟨d, hd⟩ := ih.2 hv
      exact ⟨d, hd, (ihrest d).2 hrest⟩
  case elementsOmitted =>
    intro name count k s rest i acc ih
    rw [decodeElements, if_pos rfl, ih]
    constructor
    · exact .omitted
    · rintro (_ | _ | h); exact h
  case elementsMissing =>
    intro name count k s opt rest i acc hopt
    rw [decodeElements, if_neg hopt]
    simp only [reduceCtorEq, exists_false, false_iff]
    rintro (_ | _ | _)
    exact hopt rfl
  case membersMissing =>
    intro fields present acc k hmissing
    rw [decodeMembers, hmissing]
    simp only [reduceCtorEq, exists_false, false_iff, List.not_mem_nil, exists_false, or_false,
      not_and]
    intro _ hrequired
    have := firstMissing_eq_none_iff.2 hrequired
    rw [hmissing] at this
    cases this
  case membersDone =>
    intro fields present acc hnone
    rw [decodeMembers, hnone]
    simp only [List.not_mem_nil, exists_false, or_false]
    constructor
    · intro _
      exact ⟨fun _ _ h => h.elim, firstMissing_eq_none_iff.1 hnone⟩
    · intro _
      exact ⟨_, rfl⟩
  case membersKnown =>
    intro fields k v rest present acc s opt hfield ih ihrest
    rw [decodeMembers, hfield]
    simp only
    rw [exists_bind_eq_ok, membersFit_cons_of_findField hfield, required_cons]
    constructor
    · rintro ⟨d, hd, hrest⟩
      obtain ⟨hmembers, hrequired⟩ := (ihrest d).1 hrest
      exact ⟨⟨ih.1 ⟨d, hd⟩, hmembers⟩, hrequired⟩
    · rintro ⟨⟨hv, hmembers⟩, hrequired⟩
      obtain ⟨d, hd⟩ := ih.2 hv
      exact ⟨d, hd, (ihrest d).2 ⟨hmembers, hrequired⟩⟩
  case membersUnknown =>
    intro fields k v rest present acc hfield ih
    rw [decodeMembers, hfield]
    simp only
    rw [ih, membersFit_cons_of_unknown hfield, required_cons, required_of_unknown hfield]
  case itemsDone =>
    intro item acc
    simp only [decodeItems, List.not_mem_nil]
    exact ⟨fun _ _ h => h.elim, fun _ => ⟨_, rfl⟩⟩
  case itemsCons =>
    intro item v rest acc ih ihrest
    rw [decodeItems, exists_bind_eq_ok]
    constructor
    · rintro ⟨d, hd, hrest⟩
      intro x hx
      rcases List.mem_cons.1 hx with rfl | hx
      · exact ih.1 ⟨d, hd⟩
      · exact (ihrest d).1 hrest x hx
    · intro h
      obtain ⟨d, hd⟩ := ih.2 (h v List.mem_cons_self)
      exact ⟨d, hd, (ihrest d).2 fun x hx => h x (List.mem_cons_of_mem _ hx)⟩

/-- Decoding a value succeeds exactly when the value fits the shape. -/
theorem decode_ok_iff_fits (s : Shape) (v : Value) : (∃ d, s.decode v = .ok d) ↔ s.Fits v :=
  decode_fits_all.1 s v

/-! ## What a decoded record holds -/

/-- The element of an array written for a record that stands at the position of field `k`. -/
def elementOf? (k : String) : List (String × Shape × Bool) → List Value → Option Value
  | (k', _, _) :: rest, v :: vs => if k' = k then some v else elementOf? k rest vs
  | _, _ => none

/-- The value a record is written with for its field `k`: the last member of that key of an
object, or the element at the field's position of an array. -/
def fieldValue? (fields : List (String × Shape × Bool)) (v : Value) (k : String) : Option Value :=
  match v with
  | .object members => Value.lookupMember k members.reverse
  | .array items => elementOf? k fields items
  | _ => none

/-- The value a record of this shape, or an optional one, is written with for its field `k`. -/
def field? : Shape → Value → String → Option Value
  | .record _ fields, v, k => fieldValue? fields v k
  | .optional inner, v, k => inner.field? v k
  | _, _, _ => none

theorem lookupMember_insertMember (k k' : String) (d : Value) :
    ∀ acc : List (String × Value),
      Value.lookupMember k (Value.insertMember k' d acc) =
        if k = k' then some d else Value.lookupMember k acc
  | [] => by simp [Value.insertMember, Value.lookupMember]
  | (k'', v) :: rest => by
    rw [Value.insertMember]
    split
    · simp [Value.lookupMember]
    · split
      · next heq =>
        subst heq
        by_cases hk : k = k' <;> simp [Value.lookupMember, hk]
      · next hne =>
        rw [Value.lookupMember, lookupMember_insertMember k k' d rest]
        by_cases hk : k = k''
        · subst hk
          simp [Value.lookupMember, Ne.symm hne]
        · simp [Value.lookupMember, hk]

theorem lookupMember_append (k : String) :
    ∀ xs ys : List (String × Value),
      Value.lookupMember k (xs ++ ys) = (Value.lookupMember k xs).or (Value.lookupMember k ys)
  | [], ys => by simp [Value.lookupMember]
  | (k', v) :: rest, ys => by
    by_cases hk : k = k' <;> simp [Value.lookupMember, hk, lookupMember_append k rest ys]

/-- What the members of an object leave in a decoded record under a field: the decoding of the
last member of that key, or what was there before when no member has it. -/
theorem decodeMembers_get? {fields : List (String × Shape × Bool)} {k : String} {s : Shape}
    {opt : Bool} (hk : findField k fields = some (s, opt)) :
    ∀ {members : List (String × Value)} {present : List String} {acc : List (String × Value)}
      {d : Value}, decodeMembers fields members present acc = .ok d →
      match Value.lookupMember k members.reverse with
      | some x => ∃ d', s.decode x = .ok d' ∧ d.get? k = some d'
      | none => d.get? k = Value.lookupMember k acc
  | [], present, acc, d, h => by
    rw [decodeMembers] at h
    split at h
    · cases h
    · cases h
      simp [Value.lookupMember, Value.get?]
  | (k', v) :: rest, present, acc, d, h => by
    rw [decodeMembers] at h
    rw [List.reverse_cons, lookupMember_append]
    split at h
    · next s' opt' hfield =>
      obtain ⟨d', hd', hrest⟩ := exists_bind_eq_ok.1 ⟨d, h⟩
      obtain ⟨r, hr⟩ := hrest
      have hrd : r = d := by rw [hd'] at h; exact Except.ok.inj (hr.symm.trans h)
      subst hrd
      have ih := decodeMembers_get? hk hr
      cases hlast : Value.lookupMember k rest.reverse with
      | some x => simpa [hlast] using ih
      | none =>
        simp only [hlast, lookupMember_insertMember] at ih
        by_cases hkk : k = k'
        · subst hkk
          rw [hk] at hfield
          cases hfield
          simpa [Value.lookupMember, ih] using hd'
        · simpa [Value.lookupMember, hkk] using ih
    · next hfield =>
      have ih := decodeMembers_get? hk h
      have hkk : k ≠ k' := by rintro rfl; rw [hk] at hfield; cases hfield
      cases hlast : Value.lookupMember k rest.reverse with
      | some x => simpa [hlast] using ih
      | none => simpa [hlast, Value.lookupMember, hkk] using ih

/-- Only a field of the record has an element. -/
theorem elementOf?_eq_none_of_not_mem {k : String} :
    ∀ {fields : List (String × Shape × Bool)} {items : List Value},
      k ∉ fields.map Prod.fst → elementOf? k fields items = none
  | [], _, _ => by simp [elementOf?]
  | _ :: _, [], _ => by simp [elementOf?]
  | (k', s', opt') :: rest, v :: vs, h => by
    have hne : k' ≠ k := fun heq => h (by simp [heq])
    rw [elementOf?, if_neg hne]
    exact elementOf?_eq_none_of_not_mem fun hk => h (List.mem_cons_of_mem _ hk)

/-- What the elements of an array leave in a decoded record under a key: the decoding of the
element at the position of that field, or what was there before when the array is too short or
the key names no field. -/
theorem decodeElements_get? {name : String} {count : Nat} {k : String} :
    ∀ {fields : List (String × Shape × Bool)} {items : List Value} {i : Nat}
      {acc : List (String × Value)} {d : Value}, (fields.map Prod.fst).Nodup →
      decodeElements name count fields items i acc = .ok d →
      match elementOf? k fields items with
      | some x => ∃ s opt d', findField k fields = some (s, opt) ∧ s.decode x = .ok d' ∧
          d.get? k = some d'
      | none => d.get? k = Value.lookupMember k acc
  | [], [], i, acc, d, _, h => by
    rw [decodeElements] at h
    cases h
    simp [elementOf?, Value.get?]
  | [], v :: vs, i, acc, d, _, h => by
    rw [decodeElements] at h
    · cases h
    · simp
  | (k', s', opt') :: rest, v :: vs, i, acc, d, hnodup, h => by
    rw [decodeElements] at h
    obtain ⟨d', hd', r, hr⟩ := exists_bind_eq_ok.1 ⟨d, h⟩
    have hrd : r = d := by rw [hd'] at h; exact Except.ok.inj (hr.symm.trans h)
    subst hrd
    have hk'rest : k' ∉ rest.map Prod.fst := (List.nodup_cons.1 hnodup).1
    have ih := decodeElements_get? (k := k) (List.nodup_cons.1 hnodup).2 hr
    rw [elementOf?]
    by_cases hkk : k' = k
    · subst hkk
      rw [if_pos rfl]
      simp only [elementOf?_eq_none_of_not_mem hk'rest, lookupMember_insertMember, if_pos] at ih
      exact ⟨s', opt', d', by simp [findField], hd', ih⟩
    · rw [if_neg hkk]
      cases hx : elementOf? k rest vs with
      | some x =>
        simp only [hx] at ih
        obtain ⟨s, opt, d'', hfield, hdecode, hget⟩ := ih
        exact ⟨s, opt, d'', by simp [findField, hkk, hfield], hdecode, hget⟩
      | none =>
        simpa [hx, lookupMember_insertMember, Ne.symm hkk] using ih
  | (k', s', opt') :: rest, [], i, acc, d, hnodup, h => by
    rw [decodeElements] at h
    split at h
    · have ih := decodeElements_get? (k := k) (List.nodup_cons.1 hnodup).2 h
      simpa [elementOf?] using ih
    · cases h

theorem decodeMembers_object {fields : List (String × Shape × Bool)} :
    ∀ {members : List (String × Value)} {present : List String} {acc : List (String × Value)}
      {d : Value}, decodeMembers fields members present acc = .ok d → ∃ ms, d = .object ms
  | [], present, acc, d, h => by
    rw [decodeMembers] at h
    split at h
    · cases h
    · cases h; exact ⟨_, rfl⟩
  | (k', v) :: rest, present, acc, d, h => by
    rw [decodeMembers] at h
    split at h
    · obtain ⟨d', hd', r, hr⟩ := exists_bind_eq_ok.1 ⟨d, h⟩
      have hrd : r = d := by rw [hd'] at h; exact Except.ok.inj (hr.symm.trans h)
      subst hrd
      exact decodeMembers_object hr
    · exact decodeMembers_object h

theorem decodeElements_object {name : String} {count : Nat} :
    ∀ {fields : List (String × Shape × Bool)} {items : List Value} {i : Nat}
      {acc : List (String × Value)} {d : Value},
      decodeElements name count fields items i acc = .ok d → ∃ ms, d = .object ms
  | [], [], i, acc, d, h => by
    rw [decodeElements] at h
    cases h
    exact ⟨_, rfl⟩
  | [], v :: vs, i, acc, d, h => by
    rw [decodeElements] at h
    · cases h
    · simp
  | (k', s', opt') :: rest, v :: vs, i, acc, d, h => by
    rw [decodeElements] at h
    obtain ⟨d', hd', r, hr⟩ := exists_bind_eq_ok.1 ⟨d, h⟩
    have hrd : r = d := by rw [hd'] at h; exact Except.ok.inj (hr.symm.trans h)
    subst hrd
    exact decodeElements_object hr
  | (k', s', opt') :: rest, [], i, acc, d, h => by
    rw [decodeElements] at h
    split at h
    · exact decodeElements_object h
    · cases h

/-- A decoded record is an object. -/
theorem decode_record_object {name : String} {fields : List (String × Shape × Bool)} {v d : Value}
    (h : (Shape.record name fields).decode v = .ok d) : ∃ ms, d = .object ms := by
  have hfit := (decode_ok_iff_fits _ _).1 ⟨d, h⟩
  cases hfit with
  | object _ _ =>
    rw [decode] at h
    exact decodeMembers_object h
  | elements _ =>
    rw [decode] at h
    exact decodeElements_object h

/-- A decoded record holds, under each of its fields, the decoding of the value it was written
with there, and nothing when it was written without one. -/
theorem decode_record_field {name : String} {fields : List (String × Shape × Bool)} {v d : Value}
    (h : (Shape.record name fields).decode v = .ok d) (hnodup : (fields.map Prod.fst).Nodup)
    {k : String} {s : Shape} {opt : Bool} (hk : findField k fields = some (s, opt)) :
    match fieldValue? fields v k with
    | some x => ∃ d', s.decode x = .ok d' ∧ d.get? k = some d'
    | none => d.get? k = none := by
  have hfit := (decode_ok_iff_fits _ _).1 ⟨d, h⟩
  cases hfit with
  | object _ _ =>
    rw [decode] at h
    simpa [fieldValue?, Value.lookupMember] using decodeMembers_get? hk h
  | elements _ =>
    rw [decode] at h
    have hget := decodeElements_get? (k := k) hnodup h
    simp only [fieldValue?]
    cases hx : elementOf? k fields _ with
    | some x =>
      simp only [hx] at hget
      obtain ⟨s', opt', d', hfield, hdecode, hget⟩ := hget
      rw [hk] at hfield
      cases hfield
      exact ⟨d', hdecode, hget⟩
    | none => simpa [hx, Value.lookupMember] using hget

end Shape

end WriteAccess.Json
