import WriteAccess.Proofs.SkipScan

/-!
# Reading any value

`readAny` reads a value of any kind: a word, a number, a string, or an array or object of values,
nested to the depth it is given. It reads exactly the texts of `AnyText`, with their values.
Every read that succeeds reads such a text and gives its value (`anySound`), and every such text
that nothing extends is read to its end with its value when the fuel is three units for each byte
left (`anyComplete`). The steps inside containers (the next element, the next key, the colon, the
closing brackets) get their own lemmas first; the reader of values of a given shape uses them too.
-/

open WriteAccess.Json.Text

namespace WriteAccess.Json.Reader

variable {t : ByteArray}

/-! ## Steps in containers -/

theorem ok_enter {depth i j : Nat} {u : Unit} : Ok (enter t depth) i u j ↔ 1 < depth ∧ j = i + 1 := by
  unfold enter
  by_cases hd : depth ≤ 1
  · simp [hd, ok_bind]
  · simp only [hd, if_false, ok_advance]
    exact ⟨fun h => ⟨by omega, h⟩, And.right⟩

/-- A container is read when the depth leaves room for it, its body is read from after the
opening character, and its closing is read after the body. -/
theorem ok_enter_thenClose {α : Type} {x : Scan α} {close : Scan Unit} {depth i k : Nat} {a : α} :
    Ok (enter t depth >>= fun _ => thenClose x close) i a k ↔
      1 < depth ∧ ∃ j, Ok x (i + 1) a j ∧ Ok close j () k := by
  rw [ok_bind]
  constructor
  · rintro ⟨u, m, henter, h⟩
    obtain ⟨hd, rfl⟩ := ok_enter.1 henter
    exact ⟨hd, ok_thenClose.1 h⟩
  · rintro ⟨hd, h⟩
    exact ⟨(), i + 1, ok_enter.2 ⟨hd, rfl⟩, ok_thenClose.2 h⟩

/-- The colon after a key is read when it comes after the blanks. -/
theorem ok_objectColon {i j : Nat} {u : Unit} :
    Ok (objectColon t) i u j ↔ ∃ rest, afterBlanks (rem t i) = ':' :: rest ∧ j = blankEnd t i + 1 := by
  unfold objectColon
  rw [ok_bind_of_run (run_skipBlank t i)]
  rcases hab : afterBlanks (rem t i) with _ | ⟨c, r⟩
  · simp
  simp only [List.head?_cons, List.cons.injEq]
  split
  · next heq =>
    obtain rfl := Option.some.inj heq
    simp
  · next hne heq =>
    obtain rfl := Option.some.inj heq
    simp only [not_ok_failPeeked, false_iff]
    rintro ⟨_, ⟨rfl, -⟩, -⟩
    exact hne rfl
  · next heq => simp at heq

/-- The closing brace of an object is read when it comes after the blanks. -/
theorem ok_closeMap {i j : Nat} {u : Unit} :
    Ok (closeMap t) i u j ↔ ∃ rest, afterBlanks (rem t i) = '\x7d' :: rest ∧ j = blankEnd t i + 1 := by
  unfold closeMap
  rw [ok_bind_of_run (run_skipBlank t i)]
  rcases hab : afterBlanks (rem t i) with _ | ⟨c, r⟩
  · simp
  simp only [List.head?_cons, List.cons.injEq]
  split
  · next heq =>
    obtain rfl := Option.some.inj heq
    simp
  · next heq =>
    obtain rfl := Option.some.inj heq
    simp
  · next hne _ heq =>
    obtain rfl := Option.some.inj heq
    simp only [not_ok_failPeeked, false_iff]
    rintro ⟨_, ⟨rfl, -⟩, -⟩
    exact hne rfl
  · next heq => simp at heq

/-- The closing bracket of an array is read when it comes after the blanks. -/
theorem ok_closeSeq {i j : Nat} {u : Unit} :
    Ok (closeSeq t) i u j ↔ ∃ rest, afterBlanks (rem t i) = ']' :: rest ∧ j = blankEnd t i + 1 := by
  unfold closeSeq
  rw [ok_bind_of_run (run_skipBlank t i)]
  rcases hab : afterBlanks (rem t i) with _ | ⟨c, r⟩
  · simp
  simp only [List.head?_cons, List.cons.injEq]
  split
  · next heq =>
    obtain rfl := Option.some.inj heq
    simp
  · next heq =>
    obtain rfl := Option.some.inj heq
    rw [ok_bind_of_run (run_advance _), ok_bind_of_run (run_skipBlank t _)]
    constructor
    · intro h
      split at h <;> simp at h
    · rintro ⟨_, ⟨h, -⟩, -⟩
      exact absurd h (by decide)
  · next hne _ heq =>
    obtain rfl := Option.some.inj heq
    simp only [not_ok_failPeeked, false_iff]
    rintro ⟨_, ⟨rfl, -⟩, -⟩
    exact hne rfl
  · next heq => simp at heq

/-- A closing brace read where a text with the same characters after its blanks stands: that
text is closed there, with the rest after the brace. -/
theorem afterBlanks_of_ok_closeMap {m j : Nat} {u : Unit} {r : List Char}
    (hclose : Ok (closeMap t) m u j) (hr : afterBlanks r = afterBlanks (rem t m)) :
    afterBlanks r = '\x7d' :: rem t j := by
  obtain ⟨rest, hrest, rfl⟩ := ok_closeMap.1 hclose
  rw [hr, hrest, rem_succ (rem_blankEnd_of hrest)]

/-- A closing bracket read where a text with the same characters after its blanks stands: that
text is closed there, with the rest after the bracket. -/
theorem afterBlanks_of_ok_closeSeq {m j : Nat} {u : Unit} {r : List Char}
    (hclose : Ok (closeSeq t) m u j) (hr : afterBlanks r = afterBlanks (rem t m)) :
    afterBlanks r = ']' :: rem t j := by
  obtain ⟨rest, hrest, rfl⟩ := ok_closeSeq.1 hclose
  rw [hr, hrest, rem_succ (rem_blankEnd_of hrest)]

/-- What the check for a next element of an array has seen when it succeeds: the closing
bracket, where it stops, or the start of an element, after a comma unless it is the first. -/
theorem hasNextElement_sound {first b : Bool} {i j : Nat} (h : Ok (hasNextElement t first) i b j) :
    (b = false ∧ (afterBlanks (rem t i)).head? = some ']' ∧ j = blankEnd t i) ∨
    (b = true ∧ ∀ cs, afterBlanks cs = afterBlanks (rem t i) →
      ∃ item, NextItem first cs item ∧ afterBlanks item = afterBlanks (rem t j)) := by
  unfold hasNextElement at h
  obtain ⟨c, r, hab, -, h⟩ := ok_skipBlank_bind_cons (by simp) h
  rw [hab]
  split at h
  · next heq => simp at heq
  · next heq =>
    obtain rfl := Option.some.inj heq
    simp only [ok_pure] at h
    exact .inl ⟨h.1, rfl, h.2⟩
  · next heq =>
    obtain rfl := Option.some.inj heq
    cases first
    · -- after an element: a comma, then the start of the next one
      simp only [Bool.false_eq_true, if_false] at h
      by_cases hc : c = ','
      · subst hc
        simp only [beq_self_eq_true, if_true] at h
        rw [ok_bind_of_run (run_advance _), ok_bind_of_run (run_skipBlank t _)] at h
        split at h
        · simp at h
        · simp only [ok_pure] at h
          obtain ⟨rfl, rfl⟩ := h
          refine .inr ⟨rfl, fun cs hcs => ⟨rem t (blankEnd t i + 1), ?_, ?_⟩⟩
          · simp only [NextItem, Bool.false_eq_true, if_false]
            rw [hcs, rem_succ (rem_blankEnd_of hab)]
          · rw [afterBlanks_rem_blankEnd]
        · simp at h
      · simp [hc] at h
    · simp only [if_true, ok_pure] at h
      obtain ⟨rfl, rfl⟩ := h
      exact .inr ⟨rfl, fun cs hcs =>
        ⟨cs, by simp [NextItem], by rw [afterBlanks_rem_blankEnd, hcs, hab]⟩⟩

theorem ok_hasNextElement_stop {first : Bool} {i : Nat}
    (h : (afterBlanks (rem t i)).head? = some ']') :
    Ok (hasNextElement t first) i false (blankEnd t i) := by
  unfold hasNextElement
  rw [ok_bind_of_run (run_skipBlank t i), h]
  exact ok_pure.2 ⟨rfl, rfl⟩

theorem ok_hasNextElement_next {first : Bool} {i : Nat} {cs item x : List Char} {c : Char}
    (hnext : NextItem first cs item) (hcs : afterBlanks (rem t i) = afterBlanks cs)
    (hitem : afterBlanks item = c :: x) (hc : c ≠ ']') :
    ∃ j, Ok (hasNextElement t first) i true j ∧ rem t j = afterBlanks item ∧ i ≤ j := by
  cases first
  · -- a comma, then the element after its blanks
    simp only [NextItem, Bool.false_eq_true, if_false] at hnext
    have hb := rem_blankEnd_of (hcs.trans hnext)
    refine ⟨blankEnd t (blankEnd t i + 1), ?_, by rw [rem_blankEnd, rem_succ hb], ?_⟩
    · unfold hasNextElement
      rw [ok_bind_of_run (run_skipBlank t i), hcs, hnext]
      show Ok (advance >>= fun _ => _) _ _ _
      rw [ok_bind_of_run (run_advance _), ok_bind_of_run (run_skipBlank t _), rem_succ hb, hitem]
      split
      · next heq =>
        obtain rfl := Option.some.inj heq
        exact absurd rfl hc
      · exact ok_pure.2 ⟨rfl, rfl⟩
      · next heq => simp at heq
    · have := le_blankEnd t i
      have := le_blankEnd t (blankEnd t i + 1)
      omega
  · simp only [NextItem, if_true] at hnext
    subst hnext
    refine ⟨blankEnd t i, ?_, by rw [rem_blankEnd, hcs], le_blankEnd t i⟩
    unfold hasNextElement
    rw [ok_bind_of_run (run_skipBlank t i), hcs, hitem]
    split
    · next heq => simp at heq
    · next heq =>
      obtain rfl := Option.some.inj heq
      exact absurd rfl hc
    · exact ok_pure.2 ⟨rfl, rfl⟩


/-- What the step to the next key of an object has seen when it succeeds: the closing brace,
where it stops, or a key, after a comma unless it is the first. -/
theorem nextKey_sound {first : Bool} {i j : Nat} {k : Option String}
    (h : Ok (nextKey t first) i k j) :
    (k = none ∧ (afterBlanks (rem t i)).head? = some '\x7d' ∧ j = blankEnd t i) ∨
    (∃ key, k = some key ∧
      ∀ cs, afterBlanks cs = afterBlanks (rem t i) → KeyText first cs key (rem t j)) := by
  unfold nextKey at h
  rw [ok_bind_of_run (run_skipBlank t i)] at h
  dsimp only at h
  rcases hab : afterBlanks (rem t i) with _ | ⟨c, r⟩
  · rw [hab] at h
    simp [ok_bind] at h
  have hb := rem_blankEnd_of hab
  rw [hab] at h
  simp only [List.head?_cons] at h
  split at h
  · next heq =>
    obtain rfl := Option.some.inj heq
    simp only [ok_pure] at h
    exact .inl ⟨h.1, rfl, h.2⟩
  · next heq =>
    obtain rfl := Option.some.inj heq
    cases first
    · -- a comma, then the key after its blanks
      simp only [Bool.false_eq_true, if_false] at h
      rw [ok_bind_of_run (run_advance _), ok_bind_of_run (run_skipBlank t _)] at h
      rcases hak : afterBlanks (rem t (blankEnd t i + 1)) with _ | ⟨d, s⟩
      · rw [hak] at h
        simp at h
      rw [hak] at h
      simp only [List.head?_cons] at h
      split at h
      · next heq' =>
        obtain rfl := Option.some.inj heq'
        rw [ok_bind_of_run (run_advance _), ok_map] at h
        obtain ⟨key, hkey, rfl⟩ := h
        refine .inr ⟨key, rfl, fun cs hcs => ⟨rem t (blankEnd t i + 1), _, ?_,
          hak.trans (by rw [rem_succ (rem_blankEnd_of hak)]), stringText_of_ok_readString hkey⟩⟩
        simp only [NextItem, Bool.false_eq_true, if_false]
        rw [hcs, rem_succ hb]
      all_goals simp at h
    · simp at h
  · next c' _ _ heq =>
    obtain rfl := Option.some.inj heq
    cases first
    · simp [ok_bind] at h
    · -- the first key, where the blanks end
      simp only [if_true, pure_bind] at h
      split at h
      · next heq' =>
        obtain rfl := Option.some.inj heq'
        rw [ok_bind_of_run (run_advance _), ok_map] at h
        obtain ⟨key, hkey, rfl⟩ := h
        refine .inr ⟨key, rfl, fun cs hcs => ⟨cs, _, by simp [NextItem],
          hcs.trans (by rw [rem_succ hb]), stringText_of_ok_readString hkey⟩⟩
      all_goals simp at h
  · next heq => simp at heq


theorem ok_nextKey_close {first : Bool} {i : Nat}
    (h : (afterBlanks (rem t i)).head? = some '\x7d') :
    Ok (nextKey t first) i none (blankEnd t i) := by
  unfold nextKey
  rw [ok_bind_of_run (run_skipBlank t i), h]
  exact ok_pure.2 ⟨rfl, rfl⟩

/-- A key, after a comma unless it is the first, is read to the end of its closing quote. -/
theorem reads_nextKey {first : Bool} {i : Nat} {cs rest : List Char} {key : String}
    (hkey : KeyText first cs key rest) (hcs : afterBlanks (rem t i) = afterBlanks cs) :
    Reads t (nextKey t first) i (some key) rest := by
  obtain ⟨item, body, hnext, hitem, hstr⟩ := hkey
  unfold nextKey
  refine Reads.skipBlank ?_
  dsimp only
  cases first
  · simp only [NextItem, Bool.false_eq_true, if_false] at hnext
    have hb := rem_blankEnd_of (hcs.trans hnext)
    have hq : rem t (blankEnd t (blankEnd t i + 1)) = '"' :: body := by
      rw [rem_blankEnd, rem_succ hb, hitem]
    rw [hcs, hnext]
    simp only [List.head?_cons, Bool.false_eq_true, if_false]
    refine Reads.advance (Reads.skipBlank ?_)
    rw [rem_succ hb, hitem]
    simp only [List.head?_cons]
    refine Reads.advance (Reads.map (ok_readString_of_stringText ?_))
    rw [rem_succ hq]
    exact hstr
  · simp only [NextItem, if_true] at hnext
    subst hnext
    have hb := rem_blankEnd_of (hcs.trans hitem)
    rw [hcs, hitem]
    simp only [List.head?_cons]
    split
    · next heq => simp at heq
    · next heq => simp at heq
    · next heq =>
      obtain rfl := Option.some.inj heq
      simp only [if_true, pure_bind]
      refine Reads.advance (Reads.map (ok_readString_of_stringText ?_))
      rw [rem_succ hb]
      exact hstr
    · next heq => simp at heq


end WriteAccess.Json.Reader

namespace WriteAccess.Json.Text

open Reader

/-- A value starts with a character that closes no container. -/
theorem AnyText.head {d : Nat} {cs rest : List Char} {v : Value} (h : AnyText d cs v rest) :
    ∃ c x, afterBlanks cs = c :: x ∧ c ≠ ']' ∧ c ≠ '\x7d' := by
  cases h with
  | nullWord h => exact ⟨'n', _, h, by decide, by decide⟩
  | trueWord h => exact ⟨'t', _, h, by decide, by decide⟩
  | falseWord h => exact ⟨'f', _, h, by decide, by decide⟩
  | number h =>
    obtain ⟨n, hwf, htext, -⟩ := h
    exact SkipText.head (.number ⟨n, hwf, htext⟩)
  | string h _ => exact ⟨'"', _, h, by decide, by decide⟩
  | array _ h _ _ => exact ⟨'[', _, h, by decide, by decide⟩
  | object _ h _ _ => exact ⟨'\x7b', _, h, by decide, by decide⟩

theorem delimited_of_head {r : List Char} {d : Char} (h : (afterBlanks r).head? = some d)
    (hd : d = ',' ∨ d = ']' ∨ d = '\x7d') : Delimited r := by
  obtain ⟨x, hx⟩ := List.head?_eq_some_iff.1 h
  exact delimited_of_afterBlanks hx hd

/-- Items after the first start with a comma or the closing bracket, so they delimit the item
before them. -/
theorem AnyItems.delimited {d : Nat} {cs r : List Char} {items : List Value}
    (h : AnyItems d false cs items r) : Delimited cs := by
  cases h with
  | stop h => exact delimited_of_head h (.inr (.inl rfl))
  | next hnext _ _ => exact delimited_of_afterBlanks hnext (.inl rfl)

/-- Members after the first start with a comma or the closing brace, so they delimit the value
before them. -/
theorem AnyMembers.delimited {d : Nat} {cs r : List Char} {ms : List (String × Value)}
    (h : AnyMembers d false cs ms r) : Delimited cs := by
  cases h with
  | stop h => exact delimited_of_head h (.inr (.inr rfl))
  | next hkey _ _ _ =>
    obtain ⟨item, body, hnext, -⟩ := hkey
    exact delimited_of_afterBlanks hnext (.inl rfl)

end WriteAccess.Json.Text


namespace WriteAccess.Json.Reader

variable {t : ByteArray}

/-! ## Soundness -/

/-- A literal word read after its first letter, and a value given for it. -/
theorem word_of_ok {β : Type} {i j : Nat} {c : Char} {r w : List Char} {x v : β}
    (hab : afterBlanks (rem t i) = c :: r)
    (h : Ok (advance >>= fun _ => parseIdent t w >>= fun _ => pure x) (blankEnd t i) v j) :
    v = x ∧ afterBlanks (rem t i) = c :: w ++ rem t j := by
  rw [ok_bind_of_run (run_advance _), ok_bind] at h
  obtain ⟨u, k, hw, hx⟩ := h
  rw [ok_pure] at hx
  obtain ⟨rfl, rfl⟩ := hx
  exact ⟨rfl, afterBlanks_of_ok_word hab (by rw [ok_bind_of_run (run_advance _)]; exact hw)⟩

/-- A number read after its sign is the text of a number, with the sign written or not. -/
theorem numberText_of_ok_parseInteger {positive : Bool} {k j : Nat} {n : Number}
    (h : Ok (parseInteger t positive) k n j) :
    NumberText ((if positive then [] else ['-']) ++ rem t k) n (rem t j) := by
  obtain ⟨tok, rest, hneg, hwf, hbody, -, hv, rfl⟩ := ok_parseInteger.1 h
  refine ⟨tok, hwf, ?_, hv⟩
  rw [rem_add hbody, hbody]
  cases positive <;> simp [NumberToken.text, hneg]

/-- What the readers of any value at fuel `fuel` have read when they succeed: a value, the items
of an array before its closing bracket, the members of an object before its closing brace. The
text read is any text with the same characters after its first blanks; the items and members
end at a text with the same characters after its blanks as where the reader stops. -/
structure AnySound (t : ByteArray) (fuel : Nat) : Prop where
  value : ∀ {d i j : Nat} {v : Value}, Ok (readAny t fuel d) i v j →
    ∀ cs, afterBlanks cs = afterBlanks (rem t i) → AnyText d cs v (rem t j)
  items : ∀ {d i j : Nat} {first : Bool} {acc : List Value} {v : Value},
    Ok (readAnyItems t fuel d first acc) i v j →
    ∀ cs, afterBlanks cs = afterBlanks (rem t i) →
      ∃ items r, v = .array (acc.reverse ++ items) ∧ AnyItems d first cs items r ∧
        afterBlanks r = afterBlanks (rem t j)
  members : ∀ {d i j : Nat} {first : Bool} {acc : List (String × Value)} {v : Value},
    Ok (readAnyMembers t fuel d first acc) i v j →
    ∀ cs, afterBlanks cs = afterBlanks (rem t i) →
      ∃ ms r, v = .object (ms.foldl (fun acc kv => Value.insertMember kv.1 kv.2 acc) acc) ∧
        AnyMembers d first cs ms r ∧ afterBlanks r = afterBlanks (rem t j)

theorem anySound_zero (t : ByteArray) : AnySound t 0 where
  value h := by simp [readAny] at h
  items h := by simp [readAnyItems] at h
  members h := by simp [readAnyMembers] at h

/-- A value read with one more fuel: a word, a number, a string, or a container whose items or
members the smaller fuel reads. -/
theorem AnySound.value_succ {fuel : Nat} (ih : AnySound t fuel) {d i j : Nat} {v : Value}
    (h : Ok (readAny t (fuel + 1) d) i v j) (cs : List Char)
    (hcs : afterBlanks cs = afterBlanks (rem t i)) : AnyText d cs v (rem t j) := by
  rw [readAny, ok_fixing] at h
  obtain ⟨c, r, hab, hb, h⟩ := ok_skipBlank_bind_cons (by simp) h
  split at h
  · next heq => simp at heq
  · next heq =>
    obtain rfl : c = 'n' := Option.some.inj heq
    obtain ⟨rfl, hw⟩ := word_of_ok hab h
    exact .nullWord (hcs.trans hw)
  · next heq =>
    obtain rfl : c = 't' := Option.some.inj heq
    obtain ⟨rfl, hw⟩ := word_of_ok hab h
    exact .trueWord (hcs.trans hw)
  · next heq =>
    obtain rfl : c = 'f' := Option.some.inj heq
    obtain ⟨rfl, hw⟩ := word_of_ok hab h
    exact .falseWord (hcs.trans hw)
  · next heq =>
    obtain rfl : c = '-' := Option.some.inj heq
    rw [ok_bind_of_run (run_advance _), ok_bind] at h
    obtain ⟨n, k, hn, hk⟩ := h
    rw [ok_pure] at hk
    obtain ⟨rfl, rfl⟩ := hk
    have hnum := numberText_of_ok_parseInteger hn
    rw [rem_succ hb] at hnum
    exact .number (by rw [hcs, hab]; exact hnum)
  · next heq =>
    obtain rfl : c = '"' := Option.some.inj heq
    rw [ok_bind_of_run (run_advance _), ok_bind] at h
    obtain ⟨s, k, hs, hk⟩ := h
    rw [ok_pure] at hk
    obtain ⟨rfl, rfl⟩ := hk
    have hstr := stringText_of_ok_readString hs
    rw [rem_succ hb] at hstr
    exact .string (hcs.trans hab) hstr
  · next heq =>
    obtain rfl : c = '[' := Option.some.inj heq
    obtain ⟨hd, m, hitems, hclose⟩ := ok_enter_thenClose.1 h
    obtain ⟨items, r', rfl, hitems', hr'⟩ := ih.items hitems r (by rw [rem_succ hb])
    have hend := afterBlanks_of_ok_closeSeq hclose hr'
    simpa using AnyText.array hd (hcs.trans hab) hitems' hend
  · next heq =>
    obtain rfl : c = '\x7b' := Option.some.inj heq
    obtain ⟨hd, m, hmembers, hclose⟩ := ok_enter_thenClose.1 h
    obtain ⟨ms, r', rfl, hmembers', hr'⟩ := ih.members hmembers r (by rw [rem_succ hb])
    have hend := afterBlanks_of_ok_closeMap hclose hr'
    exact AnyText.object hd (hcs.trans hab) hmembers' hend
  · next c' _ _ _ _ _ _ _ heq =>
    obtain rfl : c = c' := Option.some.inj heq
    split at h
    · rw [ok_bind] at h
      obtain ⟨n, k, hn, hk⟩ := h
      rw [ok_pure] at hk
      obtain ⟨rfl, rfl⟩ := hk
      have hnum := numberText_of_ok_parseInteger hn
      rw [hb] at hnum
      exact .number (by rw [hcs, hab]; exact hnum)
    · simp at h

/-- The items of an array read with one more fuel: the closing bracket next, or an item and the
items after it. -/
theorem AnySound.items_succ {fuel : Nat} (ih : AnySound t fuel) {d i j : Nat} {first : Bool}
    {acc : List Value} {v : Value} (h : Ok (readAnyItems t (fuel + 1) d first acc) i v j)
    (cs : List Char) (hcs : afterBlanks cs = afterBlanks (rem t i)) :
    ∃ items r, v = .array (acc.reverse ++ items) ∧ AnyItems d first cs items r ∧
      afterBlanks r = afterBlanks (rem t j) := by
  rw [readAnyItems, ok_bind] at h
  obtain ⟨b, k, hnext, h⟩ := h
  rcases hasNextElement_sound hnext with ⟨rfl, hclose, rfl⟩ | ⟨rfl, hitem⟩
  · -- the closing bracket: no more items
    simp only [Bool.false_eq_true, if_false, ok_pure] at h
    obtain ⟨rfl, rfl⟩ := h
    refine ⟨[], cs, by simp, .stop (by rw [hcs]; exact hclose), ?_⟩
    rw [afterBlanks_rem_blankEnd, hcs]
  · -- an item, then the items after it
    simp only [if_true, ok_bind] at h
    obtain ⟨w, m, hw, hrest⟩ := h
    obtain ⟨item, hnextItem, hitem'⟩ := hitem cs hcs
    obtain ⟨items, r, rfl, hitems, hr⟩ := ih.items hrest (rem t m) rfl
    exact ⟨w :: items, r, by simp, .next hnextItem (ih.value hw item hitem') hitems, hr⟩

/-- The members of an object read with one more fuel: the closing brace next, or a key, a colon,
a value and the members after them. -/
theorem AnySound.members_succ {fuel : Nat} (ih : AnySound t fuel) {d i j : Nat} {first : Bool}
    {acc : List (String × Value)} {v : Value}
    (h : Ok (readAnyMembers t (fuel + 1) d first acc) i v j) (cs : List Char)
    (hcs : afterBlanks cs = afterBlanks (rem t i)) :
    ∃ ms r, v = .object (ms.foldl (fun acc kv => Value.insertMember kv.1 kv.2 acc) acc) ∧
      AnyMembers d first cs ms r ∧ afterBlanks r = afterBlanks (rem t j) := by
  rw [readAnyMembers, ok_bind] at h
  obtain ⟨key?, k, hkey, h⟩ := h
  rcases nextKey_sound hkey with ⟨rfl, hclose, rfl⟩ | ⟨key, rfl, hkeyText⟩
  · -- the closing brace: no more members
    rw [ok_pure] at h
    obtain ⟨rfl, rfl⟩ := h
    refine ⟨[], cs, rfl, .stop (by rw [hcs]; exact hclose), ?_⟩
    rw [afterBlanks_rem_blankEnd, hcs]
  · -- a key, a colon, a value, then the members after them
    simp only [ok_bind] at h
    obtain ⟨u, m, hcolon, w, m', hw, hrest⟩ := h
    obtain ⟨value, hvalue, rfl⟩ := ok_objectColon.1 hcolon
    obtain ⟨ms, r, rfl, hms, hr⟩ := ih.members hrest (rem t m') rfl
    refine ⟨(key, w) :: ms, r, rfl, .next (hkeyText cs hcs) ?_ (ih.value hw _ rfl) hms, hr⟩
    rw [hvalue, rem_succ (rem_blankEnd_of hvalue)]

/-- Readers at one more fuel read what the readers at `fuel` let them. -/
theorem AnySound.succ {fuel : Nat} (ih : AnySound t fuel) : AnySound t (fuel + 1) where
  value h := ih.value_succ h
  items h := ih.items_succ h
  members h := ih.members_succ h

/-- Every successful read of any value reads a value of the grammar. -/
theorem anySound (t : ByteArray) : ∀ fuel, AnySound t fuel
  | 0 => anySound_zero t
  | fuel + 1 => (anySound t fuel).succ

/-! ## Completeness -/

/-- A step that reads one character after the blanks reads up to the text after it. -/
theorem reads_of_ok_iff {x : Scan Unit} {i : Nat} {c : Char} {rest : List Char}
    (hx : ∀ j, Ok x i () j ↔ ∃ rest, afterBlanks (rem t i) = c :: rest ∧ j = blankEnd t i + 1)
    (h : afterBlanks (rem t i) = c :: rest) : Reads t x i () rest := by
  have hb := rem_blankEnd_of h
  have := le_blankEnd t i
  exact ⟨blankEnd t i + 1, (hx _).2 ⟨rest, h, rfl⟩, rem_succ hb, by omega,
    lt_size_of_rem_eq_cons hb⟩

/-- A container entered at its opening bracket, its body read, then its closing bracket. -/
theorem reads_enter_thenClose {α : Type} {x : Scan α} {close : Scan Unit} {depth b j : Nat}
    {a : α} {rest : List Char} (hd : 1 < depth) (hx : Ok x (b + 1) a j) (hj : b + 1 ≤ j)
    (hclose : Reads t close j () rest) :
    Reads t (enter t depth >>= fun _ => thenClose x close) b a rest := by
  obtain ⟨k, hok, hk, hlt, hle⟩ := hclose
  exact ⟨k, ok_enter_thenClose.2 ⟨hd, j, hx, hok⟩, hk, by omega, hle⟩

/-- A well-formed number that is there, and that nothing extends, is read to its end with its
value. -/
theorem reads_parseInteger {positive : Bool} {n : NumberToken} {v : Number} {k : Nat}
    {rest : List Char} (hwf : n.Wellformed) (hneg : n.negative = !positive)
    (h : rem t k = n.body ++ rest) (hv : n.value = some v) (hrest : Delimited rest) :
    Reads t (parseInteger t positive) k v rest := by
  obtain ⟨d, x, hbody, -⟩ := NumberToken.body_eq_cons hwf
  have hne : n.body ≠ [] := by simp [hbody]
  exact ⟨k + n.body.length, ok_parseInteger.2 ⟨n, rest, hneg, hwf, h, hrest.ends n, hv, rfl⟩,
    rem_add h, by have := List.length_pos_of_ne_nil hne; omega, add_length_le_size h hne⟩

/-- A read of any value at a digit reads a number. -/
theorem ok_readAny_digit {fuel d i j : Nat} {v : Value} {c : Char} {x : List Char}
    (hab : afterBlanks (rem t i) = c :: x) (hc : isDigit c = true) :
    Ok (readAny t (fuel + 1) d) i v j ↔
      Ok (parseInteger t true >>= fun n => pure (Value.number n)) (blankEnd t i) v j := by
  rw [readAny, ok_fixing, ok_bind_of_run (run_skipBlank t i), hab]
  simp only [List.head?_cons]
  split
  case h_1 heq => simp at heq
  case h_9 c' _ _ _ _ _ _ _ heq =>
    obtain rfl : c = c' := Option.some.inj heq
    rw [if_pos hc]
  -- a digit is none of the letters, signs and brackets the other branches take
  all_goals
    rename_i heq
    obtain rfl := Option.some.inj heq
    exact absurd hc (by decide)

/-- What the readers of any value at fuel `fuel` read when the fuel is enough: a value that
nothing extends, the items of an array up to its closing bracket, the members of an object up to
its closing brace. Three units of fuel for each byte left are enough, and one more for items and
members. -/
structure AnyComplete (t : ByteArray) (fuel : Nat) : Prop where
  value : ∀ {d i : Nat} {cs rest : List Char} {v : Value}, AnyText d cs v rest →
    afterBlanks (rem t i) = afterBlanks cs → Delimited rest → 3 * (t.size - i) ≤ fuel →
    Reads t (readAny t fuel d) i v rest
  items : ∀ {d i : Nat} {first : Bool} {cs r : List Char} {items : List Value}
    (acc : List Value), AnyItems d first cs items r → afterBlanks (rem t i) = afterBlanks cs →
    3 * (t.size - i) + 1 ≤ fuel →
    ∃ j, Ok (readAnyItems t fuel d first acc) i (.array (acc.reverse ++ items)) j ∧
      rem t j = afterBlanks r ∧ i ≤ j ∧ j < t.size
  members : ∀ {d i : Nat} {first : Bool} {cs r : List Char} {ms : List (String × Value)}
    (acc : List (String × Value)), AnyMembers d first cs ms r →
    afterBlanks (rem t i) = afterBlanks cs → 3 * (t.size - i) + 1 ≤ fuel →
    ∃ j, Ok (readAnyMembers t fuel d first acc) i
        (.object (ms.foldl (fun acc kv => Value.insertMember kv.1 kv.2 acc) acc)) j ∧
      rem t j = afterBlanks r ∧ i ≤ j ∧ j < t.size

theorem anyComplete_zero (t : ByteArray) : AnyComplete t 0 where
  value h hcs _ hfuel := by
    obtain ⟨c, x, hab, -⟩ := h.head
    rw [rem_eq_nil (by omega), hab] at hcs
    simp [afterBlanks] at hcs
  items _ _ _ hfuel := absurd hfuel (by omega)
  members _ _ _ hfuel := absurd hfuel (by omega)

/-- A value is read with one more fuel: a word, a number, a string, or a container whose items
or members the smaller fuel reads. -/
theorem AnyComplete.value_succ {fuel : Nat} (ih : AnyComplete t fuel) {d i : Nat}
    {cs rest : List Char} {v : Value} (h : AnyText d cs v rest)
    (hcs : afterBlanks (rem t i) = afterBlanks cs) (hrest : Delimited rest)
    (hfuel : 3 * (t.size - i) ≤ fuel + 1) : Reads t (readAny t (fuel + 1) d) i v rest := by
  have hi := le_blankEnd t i
  cases h with
  | nullWord hw | trueWord hw | falseWord hw =>
    have hab := hcs.trans hw
    refine Reads.fixing (Reads.skipBlank ?_)
    rw [hab]
    exact Reads.advance (Reads.bind_pure (reads_parseIdent (rem_succ (rem_blankEnd_of hab))
      (by simp)))
  | @number _ _ _ num hnum =>
    obtain ⟨n, hwf, htext, hv⟩ := hnum
    cases hneg : n.negative
    · -- no sign: the first digit chooses the number branch
      obtain ⟨c, x, hbody, hc⟩ := NumberToken.body_eq_cons hwf
      have hab : afterBlanks (rem t i) = c :: (x ++ rest) := by
        rw [hcs, htext, NumberToken.text, hneg, hbody]
        rfl
      have hb : rem t (blankEnd t i) = n.body ++ rest := by
        rw [rem_blankEnd_of hab, hbody]
        rfl
      have hread : Reads t (parseInteger t true >>= fun n => pure (Value.number n))
          (blankEnd t i) (.number num) rest :=
        Reads.bind_pure (reads_parseInteger hwf (by simp [hneg]) hb hv hrest)
      obtain ⟨j, hj, hrem, hlt, hle⟩ := hread
      exact ⟨j, (ok_readAny_digit hab hc).2 hj, hrem, by omega, hle⟩
    · have hab : afterBlanks (rem t i) = '-' :: (n.body ++ rest) := by
        rw [hcs, htext, NumberToken.text, hneg]
        rfl
      refine Reads.fixing (Reads.skipBlank ?_)
      rw [hab]
      exact Reads.advance (Reads.bind_pure (reads_parseInteger hwf (by simp [hneg])
        (rem_succ (rem_blankEnd_of hab)) hv hrest))
  | string hstr htext =>
    have hab := hcs.trans hstr
    refine Reads.fixing (Reads.skipBlank ?_)
    rw [hab]
    refine Reads.advance (Reads.bind_pure (ok_readString_of_stringText ?_))
    rw [rem_succ (rem_blankEnd_of hab)]
    exact htext
  | array hd hbody hitems hclose =>
    have hab := hcs.trans hbody
    have hb := rem_blankEnd_of hab
    have hlt := lt_size_of_rem_eq_cons hb
    obtain ⟨j, hok, hj, hle, -⟩ := ih.items [] hitems (by rw [rem_succ hb]) (by omega)
    have hend : afterBlanks (rem t j) = ']' :: rest := by
      rw [hj, afterBlanks_afterBlanks, hclose]
    simp only [List.reverse_nil, List.nil_append] at hok
    refine Reads.fixing (Reads.skipBlank ?_)
    rw [hab]
    exact reads_enter_thenClose hd hok hle (reads_of_ok_iff (fun _ => ok_closeSeq) hend)
  | object hd hbody hmembers hclose =>
    have hab := hcs.trans hbody
    have hb := rem_blankEnd_of hab
    have hlt := lt_size_of_rem_eq_cons hb
    obtain ⟨j, hok, hj, hle, -⟩ := ih.members [] hmembers (by rw [rem_succ hb]) (by omega)
    have hend : afterBlanks (rem t j) = '\x7d' :: rest := by
      rw [hj, afterBlanks_afterBlanks, hclose]
    refine Reads.fixing (Reads.skipBlank ?_)
    rw [hab]
    exact reads_enter_thenClose hd hok hle (reads_of_ok_iff (fun _ => ok_closeMap) hend)

/-- The items of an array are read with one more fuel: the closing bracket, or an item and the
items after it. -/
theorem AnyComplete.items_succ {fuel : Nat} (ih : AnyComplete t fuel) {d i : Nat} {first : Bool}
    (acc : List Value) {cs r : List Char} {items : List Value} (h : AnyItems d first cs items r)
    (hcs : afterBlanks (rem t i) = afterBlanks cs) (hfuel : 3 * (t.size - i) + 1 ≤ fuel + 1) :
    ∃ j, Ok (readAnyItems t (fuel + 1) d first acc) i (.array (acc.reverse ++ items)) j ∧
      rem t j = afterBlanks r ∧ i ≤ j ∧ j < t.size := by
  cases h with
  | stop hclose =>
    have hhead : (afterBlanks (rem t i)).head? = some ']' := by
      rw [hcs]
      exact hclose
    obtain ⟨x, hx⟩ := List.head?_eq_some_iff.1 hhead
    refine ⟨blankEnd t i, ?_, by rw [rem_blankEnd, hcs], le_blankEnd t i,
      lt_size_of_rem_eq_cons (rem_blankEnd_of hx)⟩
    rw [readAnyItems, ok_bind]
    exact ⟨false, _, ok_hasNextElement_stop hhead, by simp⟩
  | @next _ _ _ _ _ _ v vs hnext hv hitems =>
    obtain ⟨c, x, hitem, hc, -⟩ := hv.head
    obtain ⟨j1, hok1, hj1, hij1⟩ := ok_hasNextElement_next hnext hcs hitem hc
    obtain ⟨j2, hok2, hj2, hlt2, hle2⟩ :=
      ih.value hv (by rw [hj1, afterBlanks_afterBlanks]) hitems.delimited (by omega)
    obtain ⟨j3, hok3, hj3, hle3, hlt3⟩ := ih.items (v :: acc) hitems (by rw [hj2]) (by omega)
    refine ⟨j3, ?_, hj3, by omega, hlt3⟩
    rw [readAnyItems, ok_bind]
    refine ⟨true, j1, hok1, ?_⟩
    simp only [if_true, ok_bind]
    exact ⟨v, j2, hok2, by simpa using hok3⟩

/-- The members of an object are read with one more fuel: the closing brace, or a key, a colon,
a value and the members after them. -/
theorem AnyComplete.members_succ {fuel : Nat} (ih : AnyComplete t fuel) {d i : Nat}
    {first : Bool} (acc : List (String × Value)) {cs r : List Char}
    {ms : List (String × Value)} (h : AnyMembers d first cs ms r)
    (hcs : afterBlanks (rem t i) = afterBlanks cs) (hfuel : 3 * (t.size - i) + 1 ≤ fuel + 1) :
    ∃ j, Ok (readAnyMembers t (fuel + 1) d first acc) i
        (.object (ms.foldl (fun acc kv => Value.insertMember kv.1 kv.2 acc) acc)) j ∧
      rem t j = afterBlanks r ∧ i ≤ j ∧ j < t.size := by
  cases h with
  | stop hclose =>
    have hhead : (afterBlanks (rem t i)).head? = some '\x7d' := by
      rw [hcs]
      exact hclose
    obtain ⟨x, hx⟩ := List.head?_eq_some_iff.1 hhead
    refine ⟨blankEnd t i, ?_, by rw [rem_blankEnd, hcs], le_blankEnd t i,
      lt_size_of_rem_eq_cons (rem_blankEnd_of hx)⟩
    rw [readAnyMembers, ok_bind]
    exact ⟨none, _, ok_nextKey_close hhead, ok_pure.2 ⟨rfl, rfl⟩⟩
  | @next _ _ _ _ _ _ _ k v _ hkey hcolon hv hms =>
    obtain ⟨j1, hok1, hj1, hlt1, hle1⟩ := reads_nextKey hkey hcs
    obtain ⟨j2, hok2, hj2, hlt2, hle2⟩ :=
      reads_of_ok_iff (fun _ => ok_objectColon) (by rw [hj1]; exact hcolon)
    obtain ⟨j3, hok3, hj3, hlt3, hle3⟩ := ih.value hv (by rw [hj2]) hms.delimited (by omega)
    obtain ⟨j4, hok4, hj4, hle4, hlt4⟩ :=
      ih.members (Value.insertMember k v acc) hms (by rw [hj3]) (by omega)
    refine ⟨j4, ?_, hj4, by omega, hlt4⟩
    rw [readAnyMembers, ok_bind]
    refine ⟨some k, j1, hok1, ?_⟩
    simp only [ok_bind]
    exact ⟨(), j2, hok2, v, j3, hok3, hok4⟩

/-- Readers at one more fuel read what the readers at `fuel` let them. -/
theorem AnyComplete.succ {fuel : Nat} (ih : AnyComplete t fuel) : AnyComplete t (fuel + 1) where
  value h hcs hrest hfuel := ih.value_succ h hcs hrest hfuel
  items acc h hcs hfuel := ih.items_succ acc h hcs hfuel
  members acc h hcs hfuel := ih.members_succ acc h hcs hfuel

/-- With three units of fuel for each byte left, every value of the grammar is read to its end. -/
theorem anyComplete (t : ByteArray) : ∀ fuel, AnyComplete t fuel
  | 0 => anyComplete_zero t
  | fuel + 1 => (anyComplete t fuel).succ

end WriteAccess.Json.Reader
