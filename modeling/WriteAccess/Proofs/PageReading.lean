import WriteAccess.Proofs.ShapeScan
import WriteAccess.Proofs.EventLog

/-!
# Reading an access page

What a lookup reads from a success answer. The body is read by the page shape, so by
`Shape.read_eq_ok_iff` the answer gives a page exactly when the body is one document of that
shape, and otherwise fails as a malformed response with the reader's message
(`readAnswer_eq_ok_iff`, `readAnswer_eq_error`).

From the grammar the page's content follows: a record holds only its fields, each read by its
field's shape, and holds every required one (`ShapeText.record`); its data is therefore an array
of entries with a string permission each (`AccessPage.document_data`). The reader also bounds how
deep a value nests: one read at depth `d` nests fewer than `d` arrays and objects
(`ShapeText.within`), so a page nests at most 127 and no answer is read as a page that nests
more, however the page is written.

Main statement: `readAnswer_reads_access_page`.
-/

namespace WriteAccess.Json

/-! ## Maps of members -/

namespace Value

/-- A member of a map after one insertion is the member inserted or was there before. -/
theorem mem_insertMember {k : String} {v : Value} {kx : String × Value} :
    ∀ {acc : List (String × Value)}, kx ∈ insertMember k v acc → kx = (k, v) ∨ kx ∈ acc
  | [], h => by simpa [insertMember] using h
  | (k', v') :: rest, h => by
    unfold insertMember at h
    split_ifs at h
    · simpa using h
    · rcases List.mem_cons.1 h with rfl | h
      · exact .inl rfl
      · exact .inr (List.mem_cons_of_mem _ h)
    · rcases List.mem_cons.1 h with rfl | h
      · exact .inr List.mem_cons_self
      · rcases mem_insertMember h with rfl | h
        · exact .inl rfl
        · exact .inr (List.mem_cons_of_mem _ h)

/-- A member of the map of a list of members is one of them, or was in the map it started
from. -/
theorem mem_foldl_insertMember {kx : String × Value} :
    ∀ (ms acc : List (String × Value)),
      kx ∈ ms.foldl (fun acc kv => insertMember kv.1 kv.2 acc) acc → kx ∈ ms ∨ kx ∈ acc
  | [], _, h => .inr h
  | (k, v) :: ms, acc, h => by
    rcases mem_foldl_insertMember ms _ h with hmem | hacc
    · exact .inl (List.mem_cons_of_mem _ hmem)
    rcases mem_insertMember hacc with rfl | hacc
    · exact .inl List.mem_cons_self
    · exact .inr hacc

/-- A value found under a key is a member of that key. -/
theorem mem_of_lookupMember {k : String} {x : Value} :
    ∀ {ms : List (String × Value)}, lookupMember k ms = some x → (k, x) ∈ ms
  | [], h => by simp [lookupMember] at h
  | (k', v) :: ms, h => by
    unfold lookupMember at h
    split at h
    · next hk =>
      subst hk
      obtain rfl := Option.some.inj h
      exact List.mem_cons_self
    · exact List.mem_cons_of_mem _ (mem_of_lookupMember h)

/-- A key of a list of members, or of the map it started from, is found in the map. -/
theorem lookupMember_foldl_isSome {k : String} :
    ∀ (ms acc : List (String × Value)), ((∃ x, (k, x) ∈ ms) ∨ (lookupMember k acc).isSome) →
      (lookupMember k (ms.foldl (fun acc kv => insertMember kv.1 kv.2 acc) acc)).isSome
  | [], _, h => by simpa using h
  | (k', v) :: ms, acc, h => by
    refine lookupMember_foldl_isSome ms _ ?_
    rw [Shape.lookupMember_insertMember]
    by_cases hk : k = k'
    · simp [hk]
    · rcases h with ⟨x, hx⟩ | hacc
      · rcases List.mem_cons.1 hx with heq | hx
        · exact absurd (Prod.mk.inj heq).1 hk
        · exact .inl ⟨x, hx⟩
      · exact .inr (by simpa [hk] using hacc)

/-- What the map of a list of members holds under a key is a member of that key. -/
theorem mem_of_get?_ofMembers {ms : List (String × Value)} {k : String} {x : Value}
    (h : (ofMembers ms).get? k = some x) : (k, x) ∈ ms :=
  (mem_foldl_insertMember ms [] (mem_of_lookupMember h)).resolve_right List.not_mem_nil

/-- A key of a member is found in the map of the members. -/
theorem get?_ofMembers_of_mem {ms : List (String × Value)} {k : String} {x : Value}
    (h : (k, x) ∈ ms) : ∃ y, (ofMembers ms).get? k = some y ∧ (k, y) ∈ ms := by
  obtain ⟨y, hy⟩ := Option.isSome_iff_exists.1 (lookupMember_foldl_isSome ms [] (.inl ⟨x, h⟩))
  exact ⟨y, hy, mem_of_get?_ofMembers hy⟩

/-! ## Nesting -/

/-- A value nests at most `n` arrays and objects inside one another. -/
inductive Within : Nat → Value → Prop
  | null {n : Nat} : Within n .null
  | bool {n : Nat} {b : Bool} : Within n (.bool b)
  | number {n : Nat} {x : Number} : Within n (.number x)
  | string {n : Nat} {s : String} : Within n (.string s)
  | array {n : Nat} {items : List Value} :
      (∀ x ∈ items, Within n x) → Within (n + 1) (.array items)
  | object {n : Nat} {ms : List (String × Value)} :
      (∀ kx ∈ ms, Within n kx.2) → Within (n + 1) (.object ms)

/-- An array opened at depth `d` holds items that nest fewer than `d - 1` containers. -/
theorem Within.array_of_lt {d : Nat} {items : List Value} (hd : 1 < d)
    (h : ∀ x ∈ items, Within (d - 1 - 1) x) : Within (d - 1) (.array items) := by
  obtain ⟨n, rfl⟩ : ∃ n, d = n + 2 := ⟨d - 2, by omega⟩
  exact .array h

/-- An object opened at depth `d`, from members that nest fewer than `d - 1` containers. -/
theorem Within.ofMembers_of_lt {d : Nat} {ms : List (String × Value)} (hd : 1 < d)
    (h : ∀ kx ∈ ms, Within (d - 1 - 1) kx.2) : Within (d - 1) (ofMembers ms) := by
  obtain ⟨n, rfl⟩ : ∃ n, d = n + 2 := ⟨d - 2, by omega⟩
  -- the map keeps only members of the list it is built from
  exact .object fun kx hkx =>
    h kx ((mem_foldl_insertMember ms [] hkx).resolve_right List.not_mem_nil)

/-- Arrays nested `k` deep around a value nest at least `k` containers. -/
theorem Within.le_of_nested {x : Value} :
    ∀ {n : Nat} (k : Nat), Within n (Nat.repeat (fun v => .array [v]) k x) → k ≤ n
  | _, 0, _ => Nat.zero_le _
  | _, k + 1, .array h => Nat.succ_le_succ (le_of_nested k (h _ List.mem_cons_self))

end Value

/-- A field found by its key is one of the fields. -/
theorem Shape.mem_of_findField {key : String} {s : Shape} {opt : Bool} :
    ∀ {fields : List (String × Shape × Bool)}, Shape.findField key fields = some (s, opt) →
      (key, s, opt) ∈ fields
  | [], h => by simp [Shape.findField] at h
  | (k, s', opt') :: rest, h => by
    rw [Shape.findField] at h
    split at h
    · next hk =>
      obtain ⟨rfl, rfl⟩ := Prod.mk.inj (Option.some.inj h)
      subst hk
      exact List.mem_cons_self ..
    · exact List.mem_cons_of_mem _ (mem_of_findField h)

end WriteAccess.Json

namespace WriteAccess.Json.Text

/-! ## Records, arrays and optionals read from their text -/

/-- Every member that the members of a record give is under the key of one of its fields, read
as that field's shape. -/
theorem FieldMembers.mem : ∀ {d : Nat} {fields : List (String × Shape × Bool)} {first : Bool}
    {seen : List String} {cs : List Char} {ms : List (String × Value)} {rest : List Char},
    FieldMembers d fields first seen cs ms rest → ∀ {k : String} {x : Value}, (k, x) ∈ ms →
      ∃ s opt, (k, s, opt) ∈ fields ∧ ∃ cs' rest', ShapeText d s cs' x rest'
  | _, _, _, _, _, _, _, .close _ _, _, _, hmem => by simp at hmem
  | _, _, _, _, _, _, _, .known _ hfind _ _ hv hms, _, _, hmem => by
    rcases List.mem_cons.1 hmem with heq | hmem
    · obtain ⟨rfl, rfl⟩ := Prod.mk.inj heq
      exact ⟨_, _, Shape.mem_of_findField hfind, _, _, hv⟩
    · exact FieldMembers.mem hms hmem
  | _, _, _, _, _, _, _, .unknown _ _ _ _ hms, _, _, hmem => FieldMembers.mem hms hmem

/-- Every required field of a record written as an object was read before or is among the
members read. -/
theorem FieldMembers.required : ∀ {d : Nat} {fields : List (String × Shape × Bool)}
    {first : Bool} {seen : List String} {cs : List Char} {ms : List (String × Value)}
    {rest : List Char}, FieldMembers d fields first seen cs ms rest →
      ∀ k s, (k, s, false) ∈ fields → k ∈ seen ∨ ∃ x, (k, x) ∈ ms
  | _, _, _, _, _, _, _, .close _ hrequired, k, s, hk => .inl (hrequired k s hk)
  | _, _, _, _, _, _, _, .known _ _ _ _ _ hms, k, s, hk => by
    rcases FieldMembers.required hms k s hk with hseen | ⟨x, hx⟩
    · rcases List.mem_cons.1 hseen with rfl | hseen
      · exact .inr ⟨_, List.mem_cons_self ..⟩
      · exact .inl hseen
    · exact .inr ⟨x, List.mem_cons_of_mem _ hx⟩
  | _, _, _, _, _, _, _, .unknown _ _ _ _ hms, k, s, hk => FieldMembers.required hms k s hk

/-- Every member that the elements of a record give is under the key of one of its fields, read
as that field's shape. -/
theorem FieldElements.mem : ∀ {d : Nat} {fields : List (String × Shape × Bool)} {first : Bool}
    {cs : List Char} {ms : List (String × Value)} {rest : List Char},
    FieldElements d fields first cs ms rest → ∀ {k : String} {x : Value}, (k, x) ∈ ms →
      ∃ s opt, (k, s, opt) ∈ fields ∧ ∃ cs' rest', ShapeText d s cs' x rest'
  | _, _, _, _, _, _, .done, _, _, hmem => by simp at hmem
  | _, _, _, _, _, _, .next _ hv hms, _, _, hmem => by
    rcases List.mem_cons.1 hmem with heq | hmem
    · obtain ⟨rfl, rfl⟩ := Prod.mk.inj heq
      exact ⟨_, _, List.mem_cons_self .., _, _, hv⟩
    · obtain ⟨s, opt, hfield, hs⟩ := FieldElements.mem hms hmem
      exact ⟨s, opt, List.mem_cons_of_mem _ hfield, hs⟩
  | _, _, _, _, _, _, .omit _ hms, _, _, hmem => by
    obtain ⟨s, opt, hfield, hs⟩ := FieldElements.mem hms hmem
    exact ⟨s, opt, List.mem_cons_of_mem _ hfield, hs⟩

/-- Every required field of a record written as an array has an element. -/
theorem FieldElements.required : ∀ {d : Nat} {fields : List (String × Shape × Bool)}
    {first : Bool} {cs : List Char} {ms : List (String × Value)} {rest : List Char},
    FieldElements d fields first cs ms rest → ∀ k s, (k, s, false) ∈ fields → ∃ x, (k, x) ∈ ms
  | _, _, _, _, _, _, .done, _, _, hk => by simp at hk
  | _, _, _, _, _, _, .next _ _ hms, k, s, hk => by
    rcases List.mem_cons.1 hk with heq | hk
    · obtain ⟨rfl, -⟩ := Prod.mk.inj heq
      exact ⟨_, List.mem_cons_self ..⟩
    · obtain ⟨x, hx⟩ := FieldElements.required hms k s hk
      exact ⟨x, List.mem_cons_of_mem _ hx⟩
  | _, _, _, _, _, _, .omit _ hms, k, s, hk => by
    rcases List.mem_cons.1 hk with heq | hk
    · simp at heq
    · exact FieldElements.required hms k s hk

/-- Every item that the items of an array give is read as the item shape. -/
theorem ShapeItems.mem : ∀ {d : Nat} {item : Shape} {first : Bool} {cs : List Char}
    {items : List Value} {rest : List Char}, ShapeItems d item first cs items rest →
      ∀ x ∈ items, ∃ cs' rest', ShapeText d item cs' x rest'
  | _, _, _, _, _, _, .stop _, _, hx => by simp at hx
  | _, _, _, _, _, _, .next _ hv hitems, x, hx => by
    rcases List.mem_cons.1 hx with rfl | hx
    · exact ⟨_, _, hv⟩
    · exact ShapeItems.mem hitems x hx

/-- A record read from its text is an object: what it holds under a key is under a field's key,
read as that field's shape one level deeper, and it holds every required field. -/
theorem ShapeText.record {d : Nat} {name : String} {fields : List (String × Shape × Bool)}
    {cs rest : List Char} {v : Value} (h : ShapeText d (.record name fields) cs v rest) :
    (∀ k x, v.get? k = some x →
      ∃ s opt, (k, s, opt) ∈ fields ∧ ∃ cs' rest', ShapeText (d - 1) s cs' x rest') ∧
    ∀ k s, (k, s, false) ∈ fields → ∃ x, v.get? k = some x := by
  cases h with
  | elements _ _ helements _ =>
    refine ⟨fun k x hx => helements.mem (Value.mem_of_get?_ofMembers hx), fun k s hk => ?_⟩
    obtain ⟨x, hx⟩ := helements.required k s hk
    obtain ⟨y, hy, -⟩ := Value.get?_ofMembers_of_mem hx
    exact ⟨y, hy⟩
  | members _ _ hmembers _ =>
    refine ⟨fun k x hx => hmembers.mem (Value.mem_of_get?_ofMembers hx), fun k s hk => ?_⟩
    -- no key was read before the first member
    rcases hmembers.required k s hk with hseen | ⟨x, hx⟩
    · simp at hseen
    obtain ⟨y, hy, -⟩ := Value.get?_ofMembers_of_mem hx
    exact ⟨y, hy⟩

/-- An array of a shape read from its text is an array of values read as the item shape one
level deeper. -/
theorem ShapeText.sequence_items {d : Nat} {item : Shape} {cs rest : List Char} {v : Value}
    (h : ShapeText d (.sequence item) cs v rest) :
    ∃ items, v = .array items ∧ ∀ x ∈ items, ∃ cs' rest', ShapeText (d - 1) item cs' x rest' := by
  cases h with
  | sequence _ _ hitems _ => exact ⟨_, rfl, hitems.mem⟩

/-- A string read from its text is a string. -/
theorem ShapeText.string_value {d : Nat} {cs rest : List Char} {v : Value}
    (h : ShapeText d .string cs v rest) : ∃ s, v = .string s := by
  cases h with
  | string _ _ => exact ⟨_, rfl⟩

/-- An optional value read from its text is null, or a value of the inner shape. -/
theorem ShapeText.optional_value {d : Nat} {inner : Shape} {cs rest : List Char} {v : Value}
    (h : ShapeText d (.optional inner) cs v rest) :
    v = .null ∨ ∃ cs' rest', ShapeText d inner cs' v rest' := by
  cases h with
  | nullWord _ => exact .inl rfl
  | present _ h => exact .inr ⟨_, _, h⟩

/-! ## How deep a value read nests -/

mutual

/-- A value read at depth `d` nests fewer than `d` containers. -/
theorem AnyText.within : ∀ {d : Nat} {cs : List Char} {v : Value} {rest : List Char},
    AnyText d cs v rest → v.Within (d - 1)
  | _, _, _, _, .nullWord _ => .null
  | _, _, _, _, .trueWord _ => .bool
  | _, _, _, _, .falseWord _ => .bool
  | _, _, _, _, .number _ => .number
  | _, _, _, _, .string _ _ => .string
  | _, _, _, _, .array hd _ hitems _ => Value.Within.array_of_lt hd (AnyItems.within hitems)
  | _, _, _, _, .object hd _ hmembers _ =>
    Value.Within.ofMembers_of_lt hd (AnyMembers.within hmembers)

theorem AnyItems.within : ∀ {d : Nat} {first : Bool} {cs : List Char} {items : List Value}
    {rest : List Char}, AnyItems d first cs items rest → ∀ x ∈ items, x.Within (d - 1)
  | _, _, _, _, _, .stop _, _, hx => absurd hx List.not_mem_nil
  | _, _, _, _, _, .next _ hv hitems, x, hx => by
    rcases List.mem_cons.1 hx with heq | hx
    · exact heq ▸ AnyText.within hv
    · exact AnyItems.within hitems x hx

theorem AnyMembers.within : ∀ {d : Nat} {first : Bool} {cs : List Char}
    {ms : List (String × Value)} {rest : List Char},
    AnyMembers d first cs ms rest → ∀ kx ∈ ms, kx.2.Within (d - 1)
  | _, _, _, _, _, .stop _, _, hkx => absurd hkx List.not_mem_nil
  | _, _, _, _, _, .next _ _ hv hms, kx, hkx => by
    rcases List.mem_cons.1 hkx with heq | hkx
    · exact heq ▸ AnyText.within hv
    · exact AnyMembers.within hms kx hkx

end

mutual

/-- A value read by shape at depth `d` nests fewer than `d` containers. -/
theorem ShapeText.within : ∀ {d : Nat} {s : Shape} {cs : List Char} {v : Value}
    {rest : List Char}, ShapeText d s cs v rest → v.Within (d - 1)
  | _, _, _, _, _, .any h => AnyText.within h
  | _, _, _, _, _, .string _ _ => .string
  | _, _, _, _, _, .trueWord _ => .bool
  | _, _, _, _, _, .falseWord _ => .bool
  | _, _, _, _, _, .nullWord _ => .null
  | _, _, _, _, _, .present _ h => ShapeText.within h
  | _, _, _, _, _, .sequence hd _ hitems _ =>
    Value.Within.array_of_lt hd (ShapeItems.within hitems)
  | _, _, _, _, _, .elements hd _ helements _ =>
    Value.Within.ofMembers_of_lt hd (FieldElements.within helements)
  | _, _, _, _, _, .members hd _ hmembers _ =>
    Value.Within.ofMembers_of_lt hd (FieldMembers.within hmembers)

theorem ShapeItems.within : ∀ {d : Nat} {item : Shape} {first : Bool} {cs : List Char}
    {items : List Value} {rest : List Char},
    ShapeItems d item first cs items rest → ∀ x ∈ items, x.Within (d - 1)
  | _, _, _, _, _, _, .stop _, _, hx => absurd hx List.not_mem_nil
  | _, _, _, _, _, _, .next _ hv hitems, x, hx => by
    rcases List.mem_cons.1 hx with heq | hx
    · exact heq ▸ ShapeText.within hv
    · exact ShapeItems.within hitems x hx

theorem FieldElements.within : ∀ {d : Nat} {fields : List (String × Shape × Bool)}
    {first : Bool} {cs : List Char} {ms : List (String × Value)} {rest : List Char},
    FieldElements d fields first cs ms rest → ∀ kx ∈ ms, kx.2.Within (d - 1)
  | _, _, _, _, _, _, .done, _, hkx => absurd hkx List.not_mem_nil
  | _, _, _, _, _, _, .next _ hv hms, kx, hkx => by
    rcases List.mem_cons.1 hkx with heq | hkx
    · exact heq ▸ ShapeText.within hv
    · exact FieldElements.within hms kx hkx
  | _, _, _, _, _, _, .omit _ hms, kx, hkx => FieldElements.within hms kx hkx

theorem FieldMembers.within : ∀ {d : Nat} {fields : List (String × Shape × Bool)}
    {first : Bool} {seen : List String} {cs : List Char} {ms : List (String × Value)}
    {rest : List Char}, FieldMembers d fields first seen cs ms rest → ∀ kx ∈ ms, kx.2.Within (d - 1)
  | _, _, _, _, _, _, _, .close _ _, _, hkx => absurd hkx List.not_mem_nil
  | _, _, _, _, _, _, _, .known _ _ _ _ hv hms, kx, hkx => by
    rcases List.mem_cons.1 hkx with heq | hkx
    · exact heq ▸ ShapeText.within hv
    · exact FieldMembers.within hms kx hkx
  | _, _, _, _, _, _, _, .unknown _ _ _ _ hms, kx, hkx => FieldMembers.within hms kx hkx

end

/-- A document nests at most 127 containers. -/
theorem Document.within {s : Shape} {cs : List Char} {v : Value} (h : Document s cs v) :
    v.Within 127 := by
  obtain ⟨rest, hshape, -⟩ := h
  exact hshape.within

end WriteAccess.Json.Text

namespace WriteAccess.AccessPage

open Json Json.Text

/-- A body is read as a page exactly when it is one document of the page shape. -/
theorem read_eq_ok_iff {t : ByteArray} {v : Value} :
    shape.read t = .ok v ↔ Document shape (chars t) v :=
  Shape.read_eq_ok_iff (by decide)

/-- Every entry of a page read has a string permission, and its resource definitions are
missing or an array. -/
theorem entry_fields {d : Nat} {cs rest : List Char} {entry : Value}
    (h : ShapeText d entryShape cs entry rest) :
    ∃ p, entry.get? "permission" = some (.string p) ∧
      (entry.get? "resourceDefinitions" = none ∨
        ∃ defs, entry.get? "resourceDefinitions" = some (.array defs)) := by
  have hrecord := ShapeText.record h
  obtain ⟨x, hx⟩ := hrecord.2 "permission" .string (by simp)
  obtain ⟨s, opt, hfield, cs', rest', hs⟩ := hrecord.1 "permission" x hx
  obtain ⟨rfl, -⟩ : s = .string ∧ opt = false := by simpa using hfield
  obtain ⟨p, rfl⟩ := ShapeText.string_value hs
  refine ⟨p, hx, ?_⟩
  rcases hdefs : entry.get? "resourceDefinitions" with _ | y
  · exact .inl rfl
  obtain ⟨s, opt, hfield, cs', rest', hs⟩ := hrecord.1 "resourceDefinitions" y hdefs
  obtain ⟨rfl, -⟩ : s = .sequence .any ∧ opt = true := by simpa using hfield
  obtain ⟨defs, rfl, -⟩ := ShapeText.sequence_items hs
  exact .inr ⟨defs, rfl⟩

/-- The data of a page read is an array of entries, each with a string permission and with
resource definitions that are missing or an array. -/
theorem document_data {cs : List Char} {page : Value} (h : Document shape cs page) :
    ∃ entries, page.get? "data" = some (.array entries) ∧
      ∀ entry ∈ entries, ∃ p, entry.get? "permission" = some (.string p) ∧
        (entry.get? "resourceDefinitions" = none ∨
          ∃ defs, entry.get? "resourceDefinitions" = some (.array defs)) := by
  obtain ⟨rest, hshape, -⟩ := h
  have hrecord := ShapeText.record hshape
  obtain ⟨x, hx⟩ := hrecord.2 "data" (.sequence entryShape) (by simp)
  obtain ⟨s, opt, hfield, cs', rest', hs⟩ := hrecord.1 "data" x hx
  obtain ⟨rfl, -⟩ : s = .sequence entryShape ∧ opt = false := by simpa using hfield
  obtain ⟨entries, rfl, hentries⟩ := ShapeText.sequence_items hs
  refine ⟨entries, hx, fun entry hentry => ?_⟩
  obtain ⟨cs'', rest'', hentry⟩ := hentries entry hentry
  exact entry_fields hentry

/-- The next link of a page read, when there, is a string or null. -/
theorem document_next {cs : List Char} {page : Value} (h : Document shape cs page) :
    ∀ links, page.get? "links" = some links → ∀ n, links.get? "next" = some n →
      n = .null ∨ ∃ s, n = .string s := by
  obtain ⟨rest, hshape, -⟩ := h
  intro links hlinks n hn
  obtain ⟨s, opt, hfield, cs', rest', hs⟩ := (ShapeText.record hshape).1 "links" links hlinks
  obtain ⟨rfl, -⟩ : s = linksShape ∧ opt = true := by simpa using hfield
  obtain ⟨s', opt', hfield', cs'', rest'', hs'⟩ := (ShapeText.record hs).1 "next" n hn
  obtain ⟨rfl, -⟩ : s' = .optional .string ∧ opt' = true := by simpa using hfield'
  rcases ShapeText.optional_value hs' with rfl | ⟨_, _, hstr⟩
  · exact .inl rfl
  · exact .inr (ShapeText.string_value hstr)

/-- The grant of an entry with a string permission: the permission parsed, with the entry's
resource definitions as they are, or none when the permission does not parse. -/
theorem grantOf_toOption {entry : Value} {p : String}
    (h : entry.get? "permission" = some (.string p)) :
    (grantOf entry).toOption = (Permission.parse? p).map fun perm =>
      ⟨perm, items ((entry.get? "resourceDefinitions").getD (.array []))⟩ := by
  unfold grantOf
  simp only [h, Option.bind_some, Value.asString?, Option.getD_some, Permission.read]
  cases Permission.parse? p <;> rfl

/-- An entry with a string permission is warned about exactly when its permission does not
parse. -/
theorem entryWarning_isSome {entry : Value} {p : String}
    (h : entry.get? "permission" = some (.string p)) :
    (entryWarning entry).isSome = (Permission.parse? p).isNone := by
  unfold entryWarning
  simp only [h, Option.bind_some, Value.asString?, Option.getD_some]
  cases Permission.parse? p <;> rfl

end WriteAccess.AccessPage

namespace WriteAccess.HttpSource

open Json Json.Text

/-- A success answer is read as an access page, an error of the reader becoming a malformed
response. -/
theorem readAnswer_of_isSuccess {response : Http.Response}
    (hstatus : Http.isSuccess response.status = true) :
    readAnswer response =
      (AccessPage.shape.read response.body).mapError fun e => .malformedResponse e.message := by
  unfold readAnswer
  rw [hstatus]
  cases AccessPage.shape.read response.body <;> rfl

/-- A success answer gives a page exactly when its body is a document of the page shape. -/
theorem readAnswer_eq_ok_iff {response : Http.Response}
    (hstatus : Http.isSuccess response.status = true) {page : Value} :
    readAnswer response = .ok page ↔ Document AccessPage.shape (chars response.body) page := by
  rw [readAnswer_of_isSuccess hstatus, ← AccessPage.read_eq_ok_iff]
  cases AccessPage.shape.read response.body <;> simp [Except.mapError]

/-- A success answer that gives no page fails with the reader's message. -/
theorem readAnswer_eq_error {response : Http.Response}
    (hstatus : Http.isSuccess response.status = true) {e : RbacError}
    (he : readAnswer response = .error e) :
    ∃ err : Json.Error, AccessPage.shape.read response.body = .error err ∧
      e = .malformedResponse err.message := by
  rw [readAnswer_of_isSuccess hstatus] at he
  rcases hread : AccessPage.shape.read response.body with err | page
  · rw [hread] at he
    simp only [Except.mapError, Except.error.injEq] at he
    exact ⟨err, rfl, he.symm⟩
  · rw [hread] at he
    simp [Except.mapError] at he

/-- How a success answer is read: it gives a page exactly when its body is one document of the
page shape, and otherwise fails with the reader's message. A page read nests at most 127
containers; its links' next, when there, is a string or null; its data is an array of entries,
each with a string permission and with resource definitions that are missing or an array; the
grants are the entries whose permission parses, in order, with their resource definitions as
they are, and the warnings are one for each other entry. -/
theorem readAnswer_reads_access_page (response : Http.Response)
    (hstatus : Http.isSuccess response.status = true) :
    (∀ page, readAnswer response = .ok page ↔
      Document AccessPage.shape (chars response.body) page) ∧
    (∀ e, readAnswer response = .error e →
      ∃ err : Json.Error, AccessPage.shape.read response.body = .error err ∧
        e = .malformedResponse err.message) ∧
    ∀ page, readAnswer response = .ok page →
      page.Within 127 ∧
      (∀ links, page.get? "links" = some links → ∀ n, links.get? "next" = some n →
        n = .null ∨ ∃ s, n = .string s) ∧
      ∃ entries, page.get? "data" = some (.array entries) ∧
        (∀ entry ∈ entries, ∃ p, entry.get? "permission" = some (.string p) ∧
          (entry.get? "resourceDefinitions" = none ∨
            ∃ defs, entry.get? "resourceDefinitions" = some (.array defs)) ∧
          (AccessPage.grantOf entry).toOption = (Permission.parse? p).map (fun perm =>
            ⟨perm, AccessPage.items ((entry.get? "resourceDefinitions").getD (.array []))⟩) ∧
          (AccessPage.entryWarning entry).isSome = (Permission.parse? p).isNone) ∧
        AccessPage.grants page =
          (entries.filterMap fun entry => (AccessPage.grantOf entry).toOption,
            entries.filterMap AccessPage.entryWarning) := by
  refine ⟨fun page => readAnswer_eq_ok_iff hstatus, fun e he => readAnswer_eq_error hstatus he,
    fun page hpage => ?_⟩
  have hdoc := (readAnswer_eq_ok_iff hstatus).1 hpage
  obtain ⟨entries, hdata, hentries⟩ := AccessPage.document_data hdoc
  -- the grants are taken from the array under data
  have hlist : AccessPage.entries page = entries := by
    simp [AccessPage.entries, hdata, AccessPage.items]
  refine ⟨hdoc.within, AccessPage.document_next hdoc, entries, hdata, fun entry hentry => ?_, ?_⟩
  · obtain ⟨p, hp, hdefs⟩ := hentries entry hentry
    exact ⟨p, hp, hdefs, AccessPage.grantOf_toOption hp, AccessPage.entryWarning_isSome hp⟩
  · rw [AccessPage.grants_eq, hlist]

/-- A success answer whose data holds an entry with the permission `bad` and one with
`sources:*:*` is read as a page of the access shape: the first entry is dropped with one warning
naming its permission, and the second gives the one grant. -/
theorem readAnswer_drops_unparsable_grant :
    let body := ("\x7b\"data\":[\x7b\"permission\":\"bad\"\x7d," ++
      "\x7b\"permission\":\"sources:*:*\"\x7d]\x7d").toUTF8
    Http.isSuccess 200 = true ∧
      ∃ page, readAnswer ⟨200, body⟩ = .ok page ∧ Document AccessPage.shape (chars body) page ∧
        (AccessPage.grants page).1.map Grant.permission = [⟨"sources", "*", "*"⟩] ∧
        (AccessPage.grants page).2 =
          [⟨.warn, "sources_authz::rbac::acl", "skipping unparsable rbac grant",
            [("error", .text "invalid permission 'bad'")]⟩] := by
  intro body
  have hstatus : Http.isSuccess 200 = true := by decide
  have hread := readAnswer_reads_access_page ⟨200, body⟩ hstatus
  -- the reader runs on the body: a page, whose split into grants and warnings is computed
  have hsplit : (readAnswer ⟨200, body⟩).toOption.map (fun page =>
      ((AccessPage.grants page).1.map Grant.permission, (AccessPage.grants page).2)) =
      some ([⟨"sources", "*", "*"⟩],
        [⟨.warn, "sources_authz::rbac::acl", "skipping unparsable rbac grant",
          [("error", .text "invalid permission 'bad'")]⟩]) := by
    decide +kernel
  rcases hanswer : readAnswer ⟨200, body⟩ with e | page
  · simp [hanswer, Except.toOption] at hsplit
  · simp only [hanswer, Except.toOption, Option.map_some, Option.some.injEq, Prod.mk.injEq] at hsplit
    exact ⟨hstatus, page, rfl, (hread.1 page).1 hanswer, hsplit⟩

/-- No success answer is read as a page that nests more than 127 containers. -/
theorem readAnswer_ne_ok_of_not_within {response : Http.Response}
    (hstatus : Http.isSuccess response.status = true) {page : Value}
    (hdeep : ¬ page.Within 127) : readAnswer response ≠ .ok page := fun hanswer =>
  hdeep ((readAnswer_eq_ok_iff hstatus).1 hanswer).within

/-- The body whose one entry grants a:b:c with one resource definition of 124 arrays nested
around a number is not read as that page: with the page, its data, its entry and its
definitions that is 128 containers, one more than a page read may nest. -/
theorem readAnswer_refuses_deep_definitions :
    readAnswer ⟨200, ("\x7b\"data\":[\x7b\"permission\":\"a:b:c\",\"resourceDefinitions\":" ++
      String.ofList (List.replicate 125 '[') ++ "1" ++ String.ofList (List.replicate 125 ']') ++
      "\x7d]\x7d").toUTF8⟩ ≠
    .ok (.object [("data", .array [.object [
      ("permission", .string "a:b:c"),
      ("resourceDefinitions", .array [Nat.repeat (fun v => .array [v]) 124 (Value.nat 1)])]])]) := by
  refine readAnswer_ne_ok_of_not_within rfl fun hwithin => ?_
  -- down through the page, its data, its entry and its resource definitions
  cases hwithin with
  | object hpage =>
    cases hpage _ List.mem_cons_self with
    | array hdata =>
      cases hdata _ List.mem_cons_self with
      | object hentry =>
        cases hentry _ (List.mem_cons_of_mem _ List.mem_cons_self) with
        | array hdefs =>
          have hdepth := Value.Within.le_of_nested 124 (hdefs _ List.mem_cons_self)
          omega

end WriteAccess.HttpSource
