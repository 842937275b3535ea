import WriteAccess.Proofs.ValueScan
import WriteAccess.Proofs.ShapeFit

/-!
# Reading a document by its shape

`readShape` reads a value of a given shape: a string, a boolean, null or the inner shape for an
optional, an array of items of one shape, a record written as an object of members or as an array
of its field values, or any value. It reads exactly the texts of `ShapeText`, with their values.
Every read that succeeds reads such a text (`shapeSound`), and every such text that nothing
extends is read to its end when the fuel is three units for each byte left with the shape's
`Shape.slack` on top (`shapeComplete`): the reader spends one unit without reading when it steps
into the inner shape of an optional or into any value, and one for each optional field that an
array leaves out.

`Shape.read` gives the fuel `(size + 2) * (depth + 4)` for a whole text, which covers a shape
whose slack is at most twice its depth and eight more. For such a shape it reads exactly the
documents of the shape: one value of the grammar, with nothing but blanks after it
(`Shape.read_eq_ok_iff`).
-/

open WriteAccess.Json.Text

namespace WriteAccess.Json.Text

/-- A value of a shape starts with a character that closes no container. -/
theorem ShapeText.head : ∀ {d : Nat} {s : Shape} {cs : List Char} {v : Value} {rest : List Char},
    ShapeText d s cs v rest → ∃ c x, afterBlanks cs = c :: x ∧ c ≠ ']' ∧ c ≠ '\x7d'
  | _, _, _, _, _, .any h => h.head
  | _, _, _, _, _, .string h _ => ⟨'"', _, h, by decide, by decide⟩
  | _, _, _, _, _, .trueWord h => ⟨'t', _, h, by decide, by decide⟩
  | _, _, _, _, _, .falseWord h => ⟨'f', _, h, by decide, by decide⟩
  | _, _, _, _, _, .nullWord h => ⟨'n', _, h, by decide, by decide⟩
  | _, _, _, _, _, .present _ h => ShapeText.head h
  | _, _, _, _, _, .sequence _ h _ _ => ⟨'[', _, h, by decide, by decide⟩
  | _, _, _, _, _, .elements _ h _ _ => ⟨'[', _, h, by decide, by decide⟩
  | _, _, _, _, _, .members _ h _ _ => ⟨'\x7b', _, h, by decide, by decide⟩

/-- Items after the first start with a comma or the closing bracket, so they delimit the item
before them. -/
theorem ShapeItems.delimited {d : Nat} {item : Shape} {cs r : List Char} {items : List Value}
    (h : ShapeItems d item false cs items r) : Delimited cs := by
  cases h with
  | stop h => exact delimited_of_head h (.inr (.inl rfl))
  | next hnext _ _ => exact delimited_of_afterBlanks hnext (.inl rfl)

/-- Elements after the first, in an array that the closing bracket ends, start with a comma or
the closing bracket, so they delimit the element before them. -/
theorem FieldElements.delimited {d : Nat} {fields : List (String × Shape × Bool)}
    {cs r : List Char} {ms : List (String × Value)} (h : FieldElements d fields false cs ms r)
    (hr : (afterBlanks r).head? = some ']') : Delimited cs := by
  -- the last constructor, an optional field left out, is named by a keyword
  rcases h with _ | ⟨hnext, -, -⟩ | ⟨hclose, -⟩
  · exact delimited_of_head hr (.inr (.inl rfl))
  · exact delimited_of_afterBlanks hnext (.inl rfl)
  · exact delimited_of_head hclose (.inr (.inl rfl))

/-- Members after the first start with a comma or the closing brace, so they delimit the value
before them. -/
theorem FieldMembers.delimited {d : Nat} {fields : List (String × Shape × Bool)}
    {seen : List String} {cs r : List Char} {ms : List (String × Value)}
    (h : FieldMembers d fields false seen cs ms r) : Delimited cs := by
  cases h with
  | close h _ => exact delimited_of_head h (.inr (.inr rfl))
  | known hkey _ _ _ _ _ =>
    obtain ⟨item, body, hnext, -⟩ := hkey
    exact delimited_of_afterBlanks hnext (.inl rfl)
  | unknown hkey _ _ _ _ =>
    obtain ⟨item, body, hnext, -⟩ := hkey
    exact delimited_of_afterBlanks hnext (.inl rfl)

end WriteAccess.Json.Text

namespace WriteAccess.Json

/-- The fuel a reader of shape `s` needs on top of three units for each byte left: one for each
step into a shape that reads nothing itself (any value, the inner shape of an optional), and for
a record one for each field that an array may leave out, on top of what its fields need. -/
def Shape.slack : Shape → Nat
  | .string => 0
  | .boolean => 0
  | .optional inner => inner.slack + 1
  | .sequence item => item.slack
  | .record _ fields => fields.length + fieldsSlack fields
  | .any => 1
where
  /-- The most that the shape of one of the fields needs. -/
  fieldsSlack : List (String × Shape × Bool) → Nat
    | [] => 0
    | (_, s, _) :: rest => max s.slack (fieldsSlack rest)

namespace Shape

/-- A field's shape needs no more than the most any field needs. -/
theorem slack_le_of_findField {key : String} {s : Shape} {opt : Bool} :
    ∀ {fields : List (String × Shape × Bool)}, findField key fields = some (s, opt) →
      s.slack ≤ slack.fieldsSlack fields
  | [], h => by simp [findField] at h
  | (k, s', opt') :: rest, h => by
    rw [findField] at h
    rw [slack.fieldsSlack]
    split at h
    · obtain ⟨rfl, -⟩ := Prod.mk.inj (Option.some.inj h)
      exact le_max_left _ _
    · exact le_trans (slack_le_of_findField h) (le_max_right _ _)

end Shape

end WriteAccess.Json

namespace WriteAccess.Json.Reader

variable {t : ByteArray}

/-! ## Soundness -/

/-- What the readers by shape at fuel `fuel` have read when they succeed: a value of the shape,
the items of an array, the elements of a record written as an array, the members of a record
written as an object. -/
structure ShapeSound (t : ByteArray) (fuel : Nat) : Prop where
  value : ∀ {d i j : Nat} {s : Shape} {v : Value}, Ok (readShape t fuel d s) i v j →
    ∀ cs, afterBlanks cs = afterBlanks (rem t i) → ShapeText d s cs v (rem t j)
  items : ∀ {d i j : Nat} {item : Shape} {first : Bool} {acc : List Value} {v : Value},
    Ok (readItems t fuel d item first acc) i v j →
    ∀ cs, afterBlanks cs = afterBlanks (rem t i) →
      ∃ items r, v = .array (acc.reverse ++ items) ∧ ShapeItems d item first cs items r ∧
        afterBlanks r = afterBlanks (rem t j)
  elements : ∀ {d i j : Nat} {name : String} {count : Nat} {fields : List (String × Shape × Bool)}
    {k : Nat} {first : Bool} {acc : List (String × Value)} {v : Value},
    Ok (readFieldElements t fuel d name count fields k first acc) i v j →
    ∀ cs, afterBlanks cs = afterBlanks (rem t i) →
      ∃ ms r, v = .object (ms.foldl (fun acc kv => Value.insertMember kv.1 kv.2 acc) acc) ∧
        FieldElements d fields first cs ms r ∧ afterBlanks r = afterBlanks (rem t j)
  members : ∀ {d i j : Nat} {fields : List (String × Shape × Bool)} {first : Bool}
    {seen : List String} {acc : List (String × Value)} {v : Value},
    Ok (readFieldMembers t fuel d fields first seen acc) i v j →
    ∀ cs, afterBlanks cs = afterBlanks (rem t i) →
      ∃ ms r, v = .object (ms.foldl (fun acc kv => Value.insertMember kv.1 kv.2 acc) acc) ∧
        FieldMembers d fields first seen cs ms r ∧ afterBlanks r = afterBlanks (rem t j)

theorem shapeSound_zero (t : ByteArray) : ShapeSound t 0 where
  value h := by simp [readShape] at h
  items h := by simp [readItems] at h
  elements h := by simp [readFieldElements] at h
  members h := by simp [readFieldMembers] at h

/-- A value of a shape read with one more fuel. -/
theorem ShapeSound.value_succ {fuel : Nat} (ih : ShapeSound t fuel) {d i j : Nat} {s : Shape}
    {v : Value} (h : Ok (readShape t (fuel + 1) d s) i v j) (cs : List Char)
    (hcs : afterBlanks cs = afterBlanks (rem t i)) : ShapeText d s cs v (rem t j) := by
  cases s with
  | any =>
    rw [readShape] at h
    exact .any ((anySound t fuel).value h cs hcs)
  | string =>
    rw [readShape, ok_fixing] at h
    obtain ⟨c, r, hab, hb, h⟩ := ok_skipBlank_bind_cons (by simp) h
    split at h
    · next heq => simp at heq
    · next heq =>
      obtain rfl : c = '"' := Option.some.inj heq
      rw [ok_bind_of_run (run_advance _), ok_bind] at h
      obtain ⟨str, k, hs, hk⟩ := h
      rw [ok_pure] at hk
      obtain ⟨rfl, rfl⟩ := hk
      have hstr := stringText_of_ok_readString hs
      rw [rem_succ hb] at hstr
      exact .string (hcs.trans hab) hstr
    · simp [ok_bind] at h
  | boolean =>
    rw [readShape, ok_fixing] at h
    obtain ⟨c, r, hab, -, h⟩ := ok_skipBlank_bind_cons (by simp) h
    split at h
    · next heq => simp at heq
    · next heq =>
      obtain rfl : c = 't' := Option.some.inj heq
      obtain ⟨rfl, hw⟩ := word_of_ok hab h
      exact .trueWord (hcs.trans hw)
    · next heq =>
      obtain rfl : c = 'f' := Option.some.inj heq
      obtain ⟨rfl, hw⟩ := word_of_ok hab h
      exact .falseWord (hcs.trans hw)
    · simp [ok_bind] at h
  | optional inner =>
    rw [readShape, ok_bind_of_run (run_skipBlank t i)] at h
    split at h
    · next heq =>
      obtain ⟨x, hx⟩ := List.head?_eq_some_iff.1 heq
      obtain ⟨rfl, hw⟩ := word_of_ok hx h
      exact .nullWord (hcs.trans hw)
    · next hne =>
      -- not a null: the inner shape, read from where the blanks end
      refine .present (by rw [hcs]; exact hne) (ih.value h cs ?_)
      rw [afterBlanks_rem_blankEnd, hcs]
  | sequence item =>
    rw [readShape, ok_fixing] at h
    obtain ⟨c, r, hab, hb, h⟩ := ok_skipBlank_bind_cons (by simp) h
    split at h
    · next heq => simp at heq
    · next heq =>
      obtain rfl : c = '[' := Option.some.inj heq
      obtain ⟨hd, m, hitems, hclose⟩ := ok_enter_thenClose.1 h
      obtain ⟨items, r', rfl, hitems', hr'⟩ := ih.items hitems r (by rw [rem_succ hb])
      have hend := afterBlanks_of_ok_closeSeq hclose hr'
      simpa using ShapeText.sequence hd (hcs.trans hab) hitems' hend
    · simp [ok_bind] at h
  | record name fields =>
    rw [readShape, ok_fixing] at h
    obtain ⟨c, r, hab, hb, h⟩ := ok_skipBlank_bind_cons (by simp) h
    split at h
    · next heq => simp at heq
    · next heq =>
      -- a record written as an array of its field values
      obtain rfl : c = '[' := Option.some.inj heq
      obtain ⟨hd, m, helements, hclose⟩ := ok_enter_thenClose.1 h
      obtain ⟨ms, r', rfl, helements', hr'⟩ := ih.elements helements r (by rw [rem_succ hb])
      have hend := afterBlanks_of_ok_closeSeq hclose hr'
      exact ShapeText.elements hd (hcs.trans hab) helements' hend
    · next heq =>
      -- a record written as an object
      obtain rfl : c = '\x7b' := Option.some.inj heq
      obtain ⟨hd, m, hmembers, hclose⟩ := ok_enter_thenClose.1 h
      obtain ⟨ms, r', rfl, hmembers', hr'⟩ := ih.members hmembers r (by rw [rem_succ hb])
      have hend := afterBlanks_of_ok_closeMap hclose hr'
      exact ShapeText.members hd (hcs.trans hab) hmembers' hend
    · simp [ok_bind] at h

/-- The items of an array of a shape read with one more fuel. -/
theorem ShapeSound.items_succ {fuel : Nat} (ih : ShapeSound t fuel) {d i j : Nat} {item : Shape}
    {first : Bool} {acc : List Value} {v : Value}
    (h : Ok (readItems t (fuel + 1) d item first acc) i v j) (cs : List Char)
    (hcs : afterBlanks cs = afterBlanks (rem t i)) :
    ∃ items r, v = .array (acc.reverse ++ items) ∧ ShapeItems d item first cs items r ∧
      afterBlanks r = afterBlanks (rem t j) := by
  rw [readItems, ok_bind] at h
  obtain ⟨b, k, hnext, h⟩ := h
  rcases hasNextElement_sound hnext with ⟨rfl, hclose, rfl⟩ | ⟨rfl, hitem⟩
  · -- the closing bracket: no more items
    simp only [Bool.false_eq_true, if_false, ok_pure] at h
    obtain ⟨rfl, rfl⟩ := h
    refine ⟨[], cs, by simp, .stop (by rw [hcs]; exact hclose), ?_⟩
    rw [afterBlanks_rem_blankEnd, hcs]
  · -- an item, then the items after it
    simp only [if_true, ok_bind] at h
    obtain ⟨w, m, hw, hrest⟩ := h
    obtain ⟨start, hstart, hstart'⟩ := hitem cs hcs
    obtain ⟨items, r, rfl, hitems, hr⟩ := ih.items hrest (rem t m) rfl
    exact ⟨w :: items, r, by simp, .next hstart (ih.value hw start hstart') hitems, hr⟩

/-- The elements of a record written as an array read with one more fuel: none left to match,
an optional field past the end of the array, or an element for the next field. -/
theorem ShapeSound.elements_succ {fuel : Nat} (ih : ShapeSound t fuel) {d i j : Nat}
    {name : String} {count : Nat} {fields : List (String × Shape × Bool)} {k : Nat}
    {first : Bool} {acc : List (String × Value)} {v : Value}
    (h : Ok (readFieldElements t (fuel + 1) d name count fields k first acc) i v j)
    (cs : List Char) (hcs : afterBlanks cs = afterBlanks (rem t i)) :
    ∃ ms r, v = .object (ms.foldl (fun acc kv => Value.insertMember kv.1 kv.2 acc) acc) ∧
      FieldElements d fields first cs ms r ∧ afterBlanks r = afterBlanks (rem t j) := by
  rcases fields with _ | ⟨⟨key, s, opt⟩, fields⟩
  · rw [readFieldElements, ok_pure] at h
    obtain ⟨rfl, rfl⟩ := h
    exact ⟨[], cs, rfl, .done, hcs⟩
  rw [readFieldElements, ok_bind] at h
  obtain ⟨b, m, hnext, h⟩ := h
  rcases hasNextElement_sound hnext with ⟨rfl, hclose, rfl⟩ | ⟨rfl, hitem⟩
  · -- the array has ended: only an optional field may be left out
    simp only [Bool.false_eq_true, if_false] at h
    cases opt
    · simp at h
    · simp only [if_true] at h
      obtain ⟨ms, r, rfl, hms, hr⟩ := ih.elements h cs (by rw [afterBlanks_rem_blankEnd, hcs])
      exact ⟨ms, r, rfl, .omit (by rw [hcs]; exact hclose) hms, hr⟩
  · -- an element read as the field's shape, then the elements for the fields after it
    simp only [if_true, ok_bind] at h
    obtain ⟨w, m', hw, hrest⟩ := h
    obtain ⟨start, hstart, hstart'⟩ := hitem cs hcs
    obtain ⟨ms, r, rfl, hms, hr⟩ := ih.elements hrest (rem t m') rfl
    exact ⟨(key, w) :: ms, r, rfl, .next hstart (ih.value hw start hstart') hms, hr⟩

/-- The members of a record written as an object read with one more fuel: the closing brace once
every required field has been read, a member under a field's key read at most once, or a member
under another key skipped. -/
theorem ShapeSound.members_succ {fuel : Nat} (ih : ShapeSound t fuel) {d i j : Nat}
    {fields : List (String × Shape × Bool)} {first : Bool} {seen : List String}
    {acc : List (String × Value)} {v : Value}
    (h : Ok (readFieldMembers t (fuel + 1) d fields first seen acc) i v j) (cs : List Char)
    (hcs : afterBlanks cs = afterBlanks (rem t i)) :
    ∃ ms r, v = .object (ms.foldl (fun acc kv => Value.insertMember kv.1 kv.2 acc) acc) ∧
      FieldMembers d fields first seen cs ms r ∧ afterBlanks r = afterBlanks (rem t j) := by
  rw [readFieldMembers, ok_bind] at h
  obtain ⟨key?, k, hkey, h⟩ := h
  rcases nextKey_sound hkey with ⟨rfl, hclose, rfl⟩ | ⟨key, rfl, hkeyText⟩
  · -- the closing brace, once no required field is missing
    simp only at h
    rcases hmissing : Shape.firstMissing seen fields with _ | missing
    · rw [hmissing, ok_pure] at h
      obtain ⟨rfl, rfl⟩ := h
      refine ⟨[], cs, rfl, .close (by rw [hcs]; exact hclose)
        (Shape.firstMissing_eq_none_iff.1 hmissing), ?_⟩
      rw [afterBlanks_rem_blankEnd, hcs]
    · rw [hmissing] at h
      simp at h
  simp only at h
  rcases hfind : Shape.findField key fields with _ | ⟨s, opt⟩
  · -- a key no field names: its value is skipped
    rw [hfind] at h
    simp only [ok_bind] at h
    obtain ⟨u, m, hcolon, u', m', hskip, hrest⟩ := h
    obtain ⟨value, hvalue, rfl⟩ := ok_objectColon.1 hcolon
    obtain ⟨ms, r, rfl, hms, hr⟩ := ih.members hrest (rem t m') rfl
    refine ⟨ms, r, rfl, .unknown (hkeyText cs hcs) hfind ?_ ((skipSound t fuel).value hskip _ rfl)
      hms, hr⟩
    rw [hvalue, rem_succ (rem_blankEnd_of hvalue)]
  · -- a field's key, read once
    rw [hfind] at h
    simp only at h
    by_cases hseen : seen.contains key = true
    · rw [if_pos hseen] at h
      simp at h
    rw [if_neg hseen] at h
    simp only [ok_bind] at h
    obtain ⟨u, m, hcolon, w, m', hw, hrest⟩ := h
    obtain ⟨value, hvalue, rfl⟩ := ok_objectColon.1 hcolon
    obtain ⟨ms, r, rfl, hms, hr⟩ := ih.members hrest (rem t m') rfl
    refine ⟨(key, w) :: ms, r, rfl, .known (hkeyText cs hcs) hfind (by simpa using hseen) ?_
      (ih.value hw _ rfl) hms, hr⟩
    rw [hvalue, rem_succ (rem_blankEnd_of hvalue)]

/-- Readers by shape at one more fuel read what the readers at `fuel` let them. -/
theorem ShapeSound.succ {fuel : Nat} (ih : ShapeSound t fuel) : ShapeSound t (fuel + 1) where
  value h := ih.value_succ h
  items h := ih.items_succ h
  elements h := ih.elements_succ h
  members h := ih.members_succ h

/-- Every successful read by shape reads a value of the shape's grammar. -/
theorem shapeSound (t : ByteArray) : ∀ fuel, ShapeSound t fuel
  | 0 => shapeSound_zero t
  | fuel + 1 => (shapeSound t fuel).succ

/-! ## Completeness -/

/-- What the readers by shape at fuel `fuel` read when the fuel is enough: a value of the shape
that nothing extends, the items of an array, the elements of a record written as an array that
its closing bracket ends, the members of a record written as an object. Three units of fuel for
each byte left are enough, with the slack of the shapes on top. -/
structure ShapeComplete (t : ByteArray) (fuel : Nat) : Prop where
  value : ∀ {d i : Nat} {s : Shape} {cs rest : List Char} {v : Value}, ShapeText d s cs v rest →
    afterBlanks (rem t i) = afterBlanks cs → Delimited rest → 3 * (t.size - i) + s.slack ≤ fuel →
    Reads t (readShape t fuel d s) i v rest
  items : ∀ {d i : Nat} {item : Shape} {first : Bool} {cs r : List Char} {items : List Value}
    (acc : List Value), ShapeItems d item first cs items r →
    afterBlanks (rem t i) = afterBlanks cs → 3 * (t.size - i) + item.slack + 1 ≤ fuel →
    ∃ j, Ok (readItems t fuel d item first acc) i (.array (acc.reverse ++ items)) j ∧
      afterBlanks (rem t j) = afterBlanks r ∧ i ≤ j
  elements : ∀ {d i : Nat} {fields : List (String × Shape × Bool)} {first : Bool}
    {cs r : List Char} {ms : List (String × Value)} (name : String) (count k : Nat)
    (acc : List (String × Value)), FieldElements d fields first cs ms r →
    (afterBlanks r).head? = some ']' → afterBlanks (rem t i) = afterBlanks cs →
    3 * (t.size - i) + fields.length + Shape.slack.fieldsSlack fields + 1 ≤ fuel →
    ∃ j, Ok (readFieldElements t fuel d name count fields k first acc) i
        (.object (ms.foldl (fun acc kv => Value.insertMember kv.1 kv.2 acc) acc)) j ∧
      afterBlanks (rem t j) = afterBlanks r ∧ i ≤ j
  members : ∀ {d i : Nat} {fields : List (String × Shape × Bool)} {first : Bool}
    {seen : List String} {cs r : List Char} {ms : List (String × Value)}
    (acc : List (String × Value)), FieldMembers d fields first seen cs ms r →
    afterBlanks (rem t i) = afterBlanks cs →
    3 * (t.size - i) + Shape.slack.fieldsSlack fields + 1 ≤ fuel →
    ∃ j, Ok (readFieldMembers t fuel d fields first seen acc) i
        (.object (ms.foldl (fun acc kv => Value.insertMember kv.1 kv.2 acc) acc)) j ∧
      afterBlanks (rem t j) = afterBlanks r ∧ i ≤ j

theorem shapeComplete_zero (t : ByteArray) : ShapeComplete t 0 where
  value h hcs _ hfuel := by
    obtain ⟨c, x, hab, -⟩ := h.head
    rw [rem_eq_nil (by omega), hab] at hcs
    simp [afterBlanks] at hcs
  items _ _ _ hfuel := absurd hfuel (by omega)
  elements _ _ _ _ _ _ _ hfuel := absurd hfuel (by omega)
  members _ _ _ hfuel := absurd hfuel (by omega)

/-- A value of a shape is read with one more fuel. -/
theorem ShapeComplete.value_succ {fuel : Nat} (ih : ShapeComplete t fuel) {d i : Nat}
    {s : Shape} {cs rest : List Char} {v : Value} (h : ShapeText d s cs v rest)
    (hcs : afterBlanks (rem t i) = afterBlanks cs) (hrest : Delimited rest)
    (hfuel : 3 * (t.size - i) + s.slack ≤ fuel + 1) :
    Reads t (readShape t (fuel + 1) d s) i v rest := by
  have hi := le_blankEnd t i
  cases h with
  | any h =>
    rw [readShape]
    simp only [Shape.slack] at hfuel
    exact (anyComplete t fuel).value h hcs hrest (by omega)
  | string hstr htext =>
    have hab := hcs.trans hstr
    rw [readShape]
    refine Reads.fixing (Reads.skipBlank ?_)
    rw [hab]
    refine Reads.advance (Reads.bind_pure (ok_readString_of_stringText ?_))
    rw [rem_succ (rem_blankEnd_of hab)]
    exact htext
  | trueWord hw | falseWord hw =>
    have hab := hcs.trans hw
    rw [readShape]
    refine Reads.fixing (Reads.skipBlank ?_)
    rw [hab]
    exact Reads.advance (Reads.bind_pure (reads_parseIdent (rem_succ (rem_blankEnd_of hab))
      (by simp)))
  | nullWord hw =>
    have hab := hcs.trans hw
    rw [readShape]
    refine Reads.skipBlank ?_
    rw [hab]
    exact Reads.advance (Reads.bind_pure (reads_parseIdent (rem_succ (rem_blankEnd_of hab))
      (by simp)))
  | present hne h =>
    -- not a null: the inner shape is read from where the blanks end
    rw [readShape]
    refine Reads.skipBlank ?_
    split
    · next heq =>
      rw [hcs] at heq
      exact absurd heq hne
    · simp only [Shape.slack] at hfuel
      exact ih.value h (by rw [afterBlanks_rem_blankEnd, hcs]) hrest (by omega)
  | sequence hd hbody hitems hclose =>
    have hab := hcs.trans hbody
    have hb := rem_blankEnd_of hab
    have hlt := lt_size_of_rem_eq_cons hb
    simp only [Shape.slack] at hfuel
    obtain ⟨j, hok, hj, hle⟩ := ih.items [] hitems (by rw [rem_succ hb]) (by omega)
    have hend : afterBlanks (rem t j) = ']' :: rest := by rw [hj, hclose]
    simp only [List.reverse_nil, List.nil_append] at hok
    rw [readShape]
    refine Reads.fixing (Reads.skipBlank ?_)
    rw [hab]
    exact reads_enter_thenClose hd hok hle (reads_of_ok_iff (fun _ => ok_closeSeq) hend)
  | @elements _ name fields _ _ _ _ _ hd hbody helements hclose =>
    have hab := hcs.trans hbody
    have hb := rem_blankEnd_of hab
    have hlt := lt_size_of_rem_eq_cons hb
    simp only [Shape.slack] at hfuel
    obtain ⟨j, hok, hj, hle⟩ := ih.elements name fields.length 0 [] helements
      (by rw [hclose]; rfl) (by rw [rem_succ hb]) (by omega)
    have hend : afterBlanks (rem t j) = ']' :: rest := by rw [hj, hclose]
    rw [readShape]
    refine Reads.fixing (Reads.skipBlank ?_)
    rw [hab]
    exact reads_enter_thenClose hd hok hle (reads_of_ok_iff (fun _ => ok_closeSeq) hend)
  | members hd hbody hmembers hclose =>
    have hab := hcs.trans hbody
    have hb := rem_blankEnd_of hab
    have hlt := lt_size_of_rem_eq_cons hb
    simp only [Shape.slack] at hfuel
    obtain ⟨j, hok, hj, hle⟩ := ih.members [] hmembers (by rw [rem_succ hb]) (by omega)
    have hend : afterBlanks (rem t j) = '\x7d' :: rest := by rw [hj, hclose]
    rw [readShape]
    refine Reads.fixing (Reads.skipBlank ?_)
    rw [hab]
    exact reads_enter_thenClose hd hok hle (reads_of_ok_iff (fun _ => ok_closeMap) hend)

/-- The items of an array of a shape are read with one more fuel. -/
theorem ShapeComplete.items_succ {fuel : Nat} (ih : ShapeComplete t fuel) {d i : Nat}
    {item : Shape} {first : Bool} {cs r : List Char} {items : List Value} (acc : List Value)
    (h : ShapeItems d item first cs items r) (hcs : afterBlanks (rem t i) = afterBlanks cs)
    (hfuel : 3 * (t.size - i) + item.slack + 1 ≤ fuel + 1) :
    ∃ j, Ok (readItems t (fuel + 1) d item first acc) i (.array (acc.reverse ++ items)) j ∧
      afterBlanks (rem t j) = afterBlanks r ∧ i ≤ j := by
  cases h with
  | stop hclose =>
    have hhead : (afterBlanks (rem t i)).head? = some ']' := by
      rw [hcs]
      exact hclose
    refine ⟨blankEnd t i, ?_, by rw [afterBlanks_rem_blankEnd, hcs], le_blankEnd t i⟩
    rw [readItems, ok_bind]
    exact ⟨false, _, ok_hasNextElement_stop hhead, by simp⟩
  | @next _ _ _ _ _ _ _ v vs hnext hv hitems =>
    obtain ⟨c, x, hstart, hc, -⟩ := hv.head
    obtain ⟨j1, hok1, hj1, hij1⟩ := ok_hasNextElement_next hnext hcs hstart hc
    obtain ⟨j2, hok2, hj2, hlt2, hle2⟩ :=
      ih.value hv (by rw [hj1, afterBlanks_afterBlanks]) hitems.delimited (by omega)
    obtain ⟨j3, hok3, hj3, hle3⟩ := ih.items (v :: acc) hitems (by rw [hj2]) (by omega)
    refine ⟨j3, ?_, hj3, by omega⟩
    rw [readItems, ok_bind]
    refine ⟨true, j1, hok1, ?_⟩
    simp only [if_true, ok_bind]
    exact ⟨v, j2, hok2, by simpa using hok3⟩

/-- The elements of a record written as an array are read with one more fuel. -/
theorem ShapeComplete.elements_succ {fuel : Nat} (ih : ShapeComplete t fuel) {d i : Nat}
    {fields : List (String × Shape × Bool)} {first : Bool} {cs r : List Char}
    {ms : List (String × Value)} (name : String) (count k : Nat) (acc : List (String × Value))
    (h : FieldElements d fields first cs ms r) (hr : (afterBlanks r).head? = some ']')
    (hcs : afterBlanks (rem t i) = afterBlanks cs)
    (hfuel : 3 * (t.size - i) + fields.length + Shape.slack.fieldsSlack fields + 1 ≤ fuel + 1) :
    ∃ j, Ok (readFieldElements t (fuel + 1) d name count fields k first acc) i
        (.object (ms.foldl (fun acc kv => Value.insertMember kv.1 kv.2 acc) acc)) j ∧
      afterBlanks (rem t j) = afterBlanks r ∧ i ≤ j := by
  rcases h with _ | @⟨_, key, s, opt, fields, _, _, _, _, _, v, ms, hnext, hv, hms⟩ |
    @⟨_, key, s, fields, _, _, _, _, hclose, hms⟩
  · -- no fields left
    refine ⟨i, ?_, hcs, le_refl i⟩
    rw [readFieldElements]
    exact ok_pure.2 ⟨rfl, rfl⟩
  · -- an element for the next field, then the elements for the fields after it
    simp only [List.length_cons, Shape.slack.fieldsSlack] at hfuel
    have hs := le_max_left s.slack (Shape.slack.fieldsSlack fields)
    have hrest := le_max_right s.slack (Shape.slack.fieldsSlack fields)
    obtain ⟨c, x, hstart, hc, -⟩ := hv.head
    obtain ⟨j1, hok1, hj1, hij1⟩ := ok_hasNextElement_next hnext hcs hstart hc
    obtain ⟨j2, hok2, hj2, hlt2, hle2⟩ :=
      ih.value hv (by rw [hj1, afterBlanks_afterBlanks]) (hms.delimited hr) (by omega)
    obtain ⟨j3, hok3, hj3, hle3⟩ :=
      ih.elements name count (k + 1) (Value.insertMember key v acc) hms hr (by rw [hj2])
        (by omega)
    refine ⟨j3, ?_, hj3, by omega⟩
    rw [readFieldElements, ok_bind]
    refine ⟨true, j1, hok1, ?_⟩
    simp only [if_true, ok_bind]
    exact ⟨v, j2, hok2, hok3⟩
  · -- the array has ended before an optional field
    simp only [List.length_cons, Shape.slack.fieldsSlack] at hfuel
    have hrest := le_max_right s.slack (Shape.slack.fieldsSlack fields)
    have hhead : (afterBlanks (rem t i)).head? = some ']' := by
      rw [hcs]
      exact hclose
    have hi := le_blankEnd t i
    obtain ⟨j, hok, hj, hle⟩ := ih.elements name count (k + 1) acc hms hr
      (by rw [afterBlanks_rem_blankEnd, hcs]) (by omega)
    refine ⟨j, ?_, hj, by omega⟩
    rw [readFieldElements, ok_bind]
    refine ⟨false, _, ok_hasNextElement_stop hhead, ?_⟩
    simp only [Bool.false_eq_true, if_false, if_true]
    exact hok

/-- The members of a record written as an object are read with one more fuel. -/
theorem ShapeComplete.members_succ {fuel : Nat} (ih : ShapeComplete t fuel) {d i : Nat}
    {fields : List (String × Shape × Bool)} {first : Bool} {seen : List String}
    {cs r : List Char} {ms : List (String × Value)} (acc : List (String × Value))
    (h : FieldMembers d fields first seen cs ms r) (hcs : afterBlanks (rem t i) = afterBlanks cs)
    (hfuel : 3 * (t.size - i) + Shape.slack.fieldsSlack fields + 1 ≤ fuel + 1) :
    ∃ j, Ok (readFieldMembers t (fuel + 1) d fields first seen acc) i
        (.object (ms.foldl (fun acc kv => Value.insertMember kv.1 kv.2 acc) acc)) j ∧
      afterBlanks (rem t j) = afterBlanks r ∧ i ≤ j := by
  cases h with
  | close hclose hrequired =>
    have hhead : (afterBlanks (rem t i)).head? = some '\x7d' := by
      rw [hcs]
      exact hclose
    refine ⟨blankEnd t i, ?_, by rw [afterBlanks_rem_blankEnd, hcs], le_blankEnd t i⟩
    rw [readFieldMembers, ok_bind]
    refine ⟨none, _, ok_nextKey_close hhead, ?_⟩
    simp only [Shape.firstMissing_eq_none_iff.2 hrequired]
    exact ok_pure.2 ⟨rfl, rfl⟩
  | @known _ _ _ _ _ _ _ _ _ key s opt v ms hkey hfind hseen hcolon hv hms =>
    obtain ⟨j1, hok1, hj1, hlt1, hle1⟩ := reads_nextKey hkey hcs
    obtain ⟨j2, hok2, hj2, hlt2, hle2⟩ :=
      reads_of_ok_iff (fun _ => ok_objectColon) (by rw [hj1]; exact hcolon)
    have hs := Shape.slack_le_of_findField hfind
    obtain ⟨j3, hok3, hj3, hlt3, hle3⟩ := ih.value hv (by rw [hj2]) hms.delimited (by omega)
    obtain ⟨j4, hok4, hj4, hle4⟩ :=
      ih.members (Value.insertMember key v acc) hms (by rw [hj3]) (by omega)
    refine ⟨j4, ?_, hj4, by omega⟩
    rw [readFieldMembers, ok_bind]
    refine ⟨some key, j1, hok1, ?_⟩
    simp only [hfind]
    rw [if_neg (by simpa using hseen)]
    simp only [ok_bind]
    exact ⟨(), j2, hok2, v, j3, hok3, hok4⟩
  | @unknown _ _ _ _ _ _ _ _ _ key ms hkey hfind hcolon hskip hms =>
    obtain ⟨j1, hok1, hj1, hlt1, hle1⟩ := reads_nextKey hkey hcs
    obtain ⟨j2, hok2, hj2, hlt2, hle2⟩ :=
      reads_of_ok_iff (fun _ => ok_objectColon) (by rw [hj1]; exact hcolon)
    obtain ⟨j3, hok3, hj3, hlt3, hle3⟩ :=
      (skipComplete t fuel).value hskip (by rw [hj2]) hms.delimited (by omega)
    obtain ⟨j4, hok4, hj4, hle4⟩ := ih.members acc hms (by rw [hj3]) (by omega)
    refine ⟨j4, ?_, hj4, by omega⟩
    rw [readFieldMembers, ok_bind]
    refine ⟨some key, j1, hok1, ?_⟩
    simp only [hfind, ok_bind]
    exact ⟨(), j2, hok2, (), j3, hok3, hok4⟩

/-- Readers by shape at one more fuel read what the readers at `fuel` let them. -/
theorem ShapeComplete.succ {fuel : Nat} (ih : ShapeComplete t fuel) :
    ShapeComplete t (fuel + 1) where
  value h hcs hrest hfuel := ih.value_succ h hcs hrest hfuel
  items acc h hcs hfuel := ih.items_succ acc h hcs hfuel
  elements name count k acc h hr hcs hfuel := ih.elements_succ name count k acc h hr hcs hfuel
  members acc h hcs hfuel := ih.members_succ acc h hcs hfuel

/-- With three units of fuel for each byte left and the slack of the shape on top, every value
of a shape's grammar is read to its end. -/
theorem shapeComplete (t : ByteArray) : ∀ fuel, ShapeComplete t fuel
  | 0 => shapeComplete_zero t
  | fuel + 1 => (shapeComplete t fuel).succ

end WriteAccess.Json.Reader

namespace WriteAccess.Json

open Reader WriteAccess.Json.Text

/-- A step run from the start gives its value exactly when it succeeds at some index. -/
theorem Reader.fst_run_eq_ok {α : Type} {x : Scan α} {i : Nat} {a : α} :
    (x.run.run i).1 = .ok a ↔ ∃ j, Ok x i a j := by
  unfold Ok
  rcases hrun : x.run.run i with ⟨r, j⟩
  constructor
  · rintro rfl
    exact ⟨j, rfl⟩
  · rintro ⟨k, hk⟩
    cases hk
    rfl

theorem Reader.rem_zero (t : ByteArray) : rem t 0 = chars t := List.drop_zero

/-- A whole text is read as a value of shape `s` exactly when it is a document of the shape read
as that value, when the reader's fuel covers the shape's slack: at most twice its depth and
eight more. -/
theorem Shape.read_eq_ok_iff {s : Shape} {t : ByteArray} {v : Value}
    (hslack : s.slack ≤ 2 * s.depth + 8) : s.read t = .ok v ↔ Document s (chars t) v := by
  unfold Shape.read
  rw [Reader.fst_run_eq_ok]
  constructor
  · rintro ⟨j, h⟩
    rw [ok_bind] at h
    obtain ⟨w, k, hshape, h⟩ := h
    rw [ok_bind_of_run (run_skipBlank t k)] at h
    split at h
    · simp at h
    · next hnone =>
      rw [ok_pure] at h
      obtain ⟨rfl, rfl⟩ := h
      refine ⟨rem t k, (shapeSound t _).value hshape (chars t) (by rw [Reader.rem_zero]), ?_⟩
      exact List.head?_eq_none_iff.1 hnone
  · rintro ⟨rest, hshape, hend⟩
    have hfuel : 3 * (t.size - 0) + s.slack ≤ (t.size + 2) * (s.depth + 4) := by
      rw [Nat.sub_zero]
      nlinarith
    obtain ⟨j, hok, hj, -, -⟩ := (shapeComplete t _).value hshape (by rw [Reader.rem_zero])
      (delimited_of_afterBlanks_nil hend) hfuel
    refine ⟨blankEnd t j, ok_bind.2 ⟨v, j, hok, ?_⟩⟩
    rw [ok_bind_of_run (run_skipBlank t j), hj, hend]
    exact ok_pure.2 ⟨rfl, rfl⟩

end WriteAccess.Json
