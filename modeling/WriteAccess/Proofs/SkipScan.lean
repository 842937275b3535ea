import WriteAccess.Proofs.NumberScan
import WriteAccess.Proofs.StringScan

/-!
# Skipping a value

`ignoreValue` skips a value that is not kept, a member of a record under a key the record does
not name, after checking its form: the words, numbers and strings JSON allows, and arrays and
objects of them to any depth. It skips exactly the texts of `SkipText`. Every skip that succeeds
reads such a text (`skipSound`), and every such text that nothing extends (`Delimited`: the text
after it starts with a blank, a comma or a closing bracket, or is empty) is skipped to its end
when the fuel is three units for each byte left (`skipComplete`). Both go by induction on the
fuel, one step of each of the three mutual functions at a time, with the text compared after its
leading blanks.
-/

open WriteAccess.Json.Text

namespace WriteAccess.Json.Text

open Reader

/-- A text that may follow a value: nothing, or first a blank, a comma or a closing bracket. -/
def Delimited (rest : List Char) : Prop :=
  ∀ c ∈ rest.head?, isBlankByte c = true ∨ c = ',' ∨ c = ']' ∨ c = '\x7d'

/-- What delimits a value is no digit, exponent letter or decimal point. -/
theorem Delimited.head {rest : List Char} (h : Delimited rest) :
    ∀ c ∈ rest.head?, isDigit c = false ∧ c ≠ 'e' ∧ c ≠ 'E' ∧ c ≠ '.' := by
  intro c hc
  rcases h c hc with hb | rfl | rfl | rfl
  · simp only [isBlankByte, Bool.or_eq_true, beq_iff_eq] at hb
    rcases hb with ((rfl | rfl) | rfl) | rfl <;> decide
  all_goals decide

/-- A number followed by a delimited text cannot go on. -/
theorem Delimited.ends {rest : List Char} (h : Delimited rest) (n : NumberToken) : n.Ends rest where
  digit c hc := (h.head c hc).1
  letter _ c hc := ⟨(h.head c hc).2.1, (h.head c hc).2.2.1⟩
  point _ _ c hc := (h.head c hc).2.2.2

/-- Text whose first non-blank character is a comma or a closing bracket delimits a value. -/
theorem delimited_of_afterBlanks {r x : List Char} {d : Char} (h : afterBlanks r = d :: x)
    (hd : d = ',' ∨ d = ']' ∨ d = '\x7d') : Delimited r := by
  rcases r with _ | ⟨c, r⟩
  · simp [Delimited]
  simp only [Delimited, List.head?_cons, Option.mem_def, Option.some.injEq, forall_eq']
  by_cases hb : isBlankByte c = true
  · exact Or.inl hb
  · have : c = d ∧ r = x := by simpa [afterBlanks, List.dropWhile_cons, hb] using h
    exact Or.inr (this.1 ▸ hd)

/-- Text with nothing after its blanks delimits a value. -/
theorem delimited_of_afterBlanks_nil {r : List Char} (h : afterBlanks r = []) : Delimited r := by
  rcases r with _ | ⟨c, r⟩
  · simp [Delimited]
  simp only [Delimited, List.head?_cons, Option.mem_def, Option.some.injEq, forall_eq']
  by_cases hb : isBlankByte c = true
  · exact Or.inl hb
  · simp [afterBlanks, hb] at h

/-- A number after its sign starts with a digit. -/
theorem NumberToken.body_eq_cons {n : NumberToken} (hwf : n.Wellformed) :
    ∃ d x, n.body = d :: x ∧ isDigit d = true := by
  obtain ⟨d, ds, hint⟩ := List.exists_cons_of_ne_nil hwf.integer.1
  exact ⟨d, ds ++ NumberToken.fractionText n.fraction ++ NumberToken.exponentText n.exponent,
    by simp [NumberToken.body, hint], hwf.integer.2 d (by simp [hint])⟩

/-- A number starts with its sign or its first digit. -/
theorem NumberToken.text_eq_cons {n : NumberToken} (hwf : n.Wellformed) :
    ∃ c x, n.text = c :: x ∧ (c = '-' ∨ isDigit c = true) := by
  cases hneg : n.negative
  · obtain ⟨d, x, hbody, hd⟩ := NumberToken.body_eq_cons hwf
    exact ⟨d, x, by simp [NumberToken.text, hneg, hbody], .inr hd⟩
  · exact ⟨'-', n.body, by simp [NumberToken.text, hneg], .inl rfl⟩

/-- A value that is skipped starts with a character that closes no container. -/
theorem SkipText.head {cs rest : List Char} (h : SkipText cs rest) :
    ∃ c x, afterBlanks cs = c :: x ∧ c ≠ ']' ∧ c ≠ '\x7d' := by
  cases h with
  | nullWord h => exact ⟨'n', _, h, by decide, by decide⟩
  | trueWord h => exact ⟨'t', _, h, by decide, by decide⟩
  | falseWord h => exact ⟨'f', _, h, by decide, by decide⟩
  | number h =>
    obtain ⟨n, hwf, htext⟩ := h
    obtain ⟨c, x, hc, hsign⟩ := NumberToken.text_eq_cons hwf
    refine ⟨c, x ++ rest, by rw [htext, hc, List.cons_append], ?_⟩
    rcases hsign with rfl | hd
    · decide
    · constructor <;> (rintro rfl; exact absurd hd (by decide))
  | string h _ => exact ⟨'"', _, h, by decide, by decide⟩
  | container hframe h _ =>
    refine ⟨_, _, h, ?_⟩
    rcases hframe with rfl | rfl <;> decide

/-- A slot that is skipped starts with a character that closes no container. -/
theorem SkipSlot.head {frame : Char} {cs rest : List Char} (h : SkipSlot frame cs rest) :
    ∃ c x, afterBlanks cs = c :: x ∧ c ≠ ']' ∧ c ≠ '\x7d' := by
  cases h with
  | item h => exact h.head
  | member h _ _ _ => exact ⟨'"', _, h, by decide, by decide⟩

/-- Slots that go on after a slot start with a comma or the closing bracket, so they delimit the
slot before them. -/
theorem SkipSlots.delimited {frame : Char} {cs rest : List Char}
    (hframe : frame = '[' ∨ frame = '\x7b') (h : SkipSlots frame true cs rest) : Delimited cs := by
  cases h with
  | close h =>
    refine delimited_of_afterBlanks h ?_
    rcases hframe with rfl | rfl <;> simp [closer]
  | comma h _ _ => exact delimited_of_afterBlanks h (.inl rfl)

end WriteAccess.Json.Text

namespace WriteAccess.Json.Reader

/-! ## Soundness -/

/-- A literal word after its first letter: the text at the cursor starts with the letter and the
word, and the reader stops after them. -/
theorem afterBlanks_of_ok_word {t : ByteArray} {i j : Nat} {c : Char} {r w : List Char}
    {u : Unit} (hab : afterBlanks (rem t i) = c :: r)
    (h : Ok (advance >>= fun _ => parseIdent t w) (blankEnd t i) u j) :
    afterBlanks (rem t i) = c :: w ++ rem t j := by
  rw [ok_bind_of_run (run_advance _), ok_parseIdent] at h
  obtain ⟨rest, hrest, rfl⟩ := h
  have hb := rem_blankEnd_of hab
  rw [rem_succ hb] at hrest
  rw [hab, hrest, rem_add (show rem t (blankEnd t i + 1) = w ++ rest by rw [rem_succ hb, hrest])]
  rfl

/-- A number skipped after its sign has the form of a number, with the sign written or not. -/
theorem numberForm_of_ok_ignoreInteger {t : ByteArray} {k j : Nat} {u : Unit}
    (h : Ok (ignoreInteger t) k u j) (negative : Bool) :
    NumberForm ((if negative then ['-'] else []) ++ rem t k) (rem t j) := by
  obtain ⟨n, rest, hwf, hbody, -, rfl⟩ := ok_ignoreInteger.1 h
  refine ⟨⟨negative, n.integer, n.fraction, n.exponent⟩, ⟨hwf.1, hwf.2, hwf.3, hwf.4⟩, ?_⟩
  rw [rem_add hbody, hbody]
  simp [NumberToken.text, NumberToken.body]

/-- What the skips at fuel `fuel` have read when they succeed: a value, the slots of a container
up to its closing bracket, or one slot of a container. The text read is any text with the same
characters after its first blanks. -/
structure SkipSound (t : ByteArray) (fuel : Nat) : Prop where
  value : ∀ {i j : Nat} {u : Unit}, Ok (ignoreValue t fuel) i u j →
    ∀ cs, afterBlanks cs = afterBlanks (rem t i) → SkipText cs (rem t j)
  slots : ∀ {frame : Char} {afterSlot : Bool} {i j : Nat} {u : Unit},
    frame = '[' ∨ frame = '\x7b' → Ok (ignoreSlots t fuel frame afterSlot) i u j →
    ∀ cs, afterBlanks cs = afterBlanks (rem t i) → SkipSlots frame afterSlot cs (rem t j)
  slot : ∀ {frame : Char} {i j : Nat} {u : Unit},
    frame = '[' ∨ frame = '\x7b' → Ok (ignoreSlot t fuel frame) i u j →
    ∀ cs, afterBlanks cs = afterBlanks (rem t i) → SkipSlot frame cs (rem t j)

theorem skipSound_zero (t : ByteArray) : SkipSound t 0 where
  value h := by simp [ignoreValue] at h
  slots _ h := by simp [ignoreSlots] at h
  slot _ h := by simp [ignoreSlot] at h

/-- A value skipped with one more fuel: a word, a number, a string, or a container whose slots
the smaller fuel skips. -/
theorem SkipSound.value_succ {t : ByteArray} {fuel : Nat} (ih : SkipSound t fuel) {i j : Nat}
    {u : Unit} (h : Ok (ignoreValue t (fuel + 1)) i u j) (cs : List Char)
    (hcs : afterBlanks cs = afterBlanks (rem t i)) : SkipText cs (rem t j) := by
  rw [ignoreValue] at h
  obtain ⟨c, r, hab, hb, h⟩ := ok_skipBlank_bind_cons (by simp) h
  rw [hab] at hcs
  split at h
  · next heq => simp at heq
  · next heq =>
    obtain rfl : c = 'n' := Option.some.inj heq
    exact .nullWord ((hcs.trans hab.symm).trans (afterBlanks_of_ok_word hab h))
  · next heq =>
    obtain rfl : c = 't' := Option.some.inj heq
    exact .trueWord ((hcs.trans hab.symm).trans (afterBlanks_of_ok_word hab h))
  · next heq =>
    obtain rfl : c = 'f' := Option.some.inj heq
    exact .falseWord ((hcs.trans hab.symm).trans (afterBlanks_of_ok_word hab h))
  · next heq =>
    obtain rfl : c = '-' := Option.some.inj heq
    rw [ok_bind_of_run (run_advance _)] at h
    have hnum := numberForm_of_ok_ignoreInteger h true
    rw [rem_succ hb] at hnum
    exact .number (hcs ▸ hnum)
  · next heq =>
    obtain rfl : c = '"' := Option.some.inj heq
    rw [ok_bind_of_run (run_advance _)] at h
    have hstr := stringForm_of_ok_ignoreString h
    rw [rem_succ hb] at hstr
    exact .string hcs hstr
  · next heq =>
    obtain rfl : c = '[' := Option.some.inj heq
    rw [ok_bind_of_run (run_advance _)] at h
    have hslots := ih.slots (.inl rfl) h _ rfl
    rw [rem_succ hb] at hslots
    exact .container (.inl rfl) hcs hslots
  · next heq =>
    obtain rfl : c = '\x7b' := Option.some.inj heq
    rw [ok_bind_of_run (run_advance _)] at h
    have hslots := ih.slots (.inr rfl) h _ rfl
    rw [rem_succ hb] at hslots
    exact .container (.inr rfl) hcs hslots
  · next c' _ _ _ _ _ _ _ heq =>
    obtain rfl : c = c' := Option.some.inj heq
    split at h
    · have hnum := numberForm_of_ok_ignoreInteger h false
      rw [hb] at hnum
      exact .number (hcs ▸ hnum)
    · simp at h

/-- The closing bracket of a container is the one its frame names. -/
theorem isCloser_iff {frame c : Char} (hframe : frame = '[' ∨ frame = '\x7b') :
    ((c == ']' && frame == '[') || (c == '\x7d' && frame == '\x7b')) = true ↔ c = closer frame := by
  rcases hframe with rfl | rfl <;> simp [closer]

/-- The slots of a container skipped with one more fuel: its closing bracket, or a slot (after a
comma unless it is the first) and the slots after it. -/
theorem SkipSound.slots_succ {t : ByteArray} {fuel : Nat} (ih : SkipSound t fuel) {frame : Char}
    {afterSlot : Bool} {i j : Nat} {u : Unit} (hframe : frame = '[' ∨ frame = '\x7b')
    (h : Ok (ignoreSlots t (fuel + 1) frame afterSlot) i u j) (cs : List Char)
    (hcs : afterBlanks cs = afterBlanks (rem t i)) : SkipSlots frame afterSlot cs (rem t j) := by
  rw [ignoreSlots] at h
  obtain ⟨c, r, hab, hb, h⟩ := ok_skipBlank_bind_cons (by simp) h
  rw [hab] at hcs
  simp only at h
  by_cases hcomma : (c == ',' && afterSlot) = true
  · -- a comma, then a slot and the slots after it
    rw [if_pos hcomma, ok_bind_of_run (run_advance _), ok_bind] at h
    obtain ⟨u', k, hslot, hslots⟩ := h
    simp only [Bool.and_eq_true, beq_iff_eq] at hcomma
    obtain ⟨rfl, rfl⟩ := hcomma
    exact .comma (hcs.trans (by rw [rem_succ hb])) (ih.slot hframe hslot _ rfl)
      (ih.slots hframe hslots _ rfl)
  rw [if_neg hcomma] at h
  by_cases hclose : ((c == ']' && frame == '[') || (c == '\x7d' && frame == '\x7b')) = true
  · -- the closing bracket
    rw [if_pos hclose, ok_advance] at h
    subst h
    rw [(isCloser_iff hframe).1 hclose] at hcs
    exact .close (hcs.trans (by rw [rem_succ hb]))
  rw [if_neg hclose] at h
  cases afterSlot
  · -- the first slot, then the slots after it
    rw [if_neg (by simp), ok_bind] at h
    obtain ⟨u', k, hslot, hslots⟩ := h
    refine .first (ih.slot hframe hslot cs ?_) (ih.slots hframe hslots _ rfl)
    rw [afterBlanks_rem_blankEnd, hab, hcs]
  · simp at h

/-- One slot skipped with one more fuel: a value in an array; a key, a colon and a value in an
object. -/
theorem SkipSound.slot_succ {t : ByteArray} {fuel : Nat} (ih : SkipSound t fuel) {frame : Char}
    {i j : Nat} {u : Unit} (hframe : frame = '[' ∨ frame = '\x7b')
    (h : Ok (ignoreSlot t (fuel + 1) frame) i u j) (cs : List Char)
    (hcs : afterBlanks cs = afterBlanks (rem t i)) : SkipSlot frame cs (rem t j) := by
  rw [ignoreSlot] at h
  rcases hframe with rfl | rfl
  · exact .item (ih.value h cs hcs)
  simp only [beq_self_eq_true, if_true] at h
  obtain ⟨c, r, hab, hb, h⟩ := ok_skipBlank_bind_cons (by simp [ok_bind]) h
  rw [hab] at hcs
  split at h
  · next heq =>
    -- the key, then the colon and the value
    obtain rfl : c = '"' := Option.some.inj heq
    rw [ok_bind_of_run (run_advance _), ok_bind] at h
    obtain ⟨u', k, hkey, h⟩ := h
    obtain ⟨d, v, hak, hk, h⟩ := ok_skipBlank_bind_cons (by simp [ok_bind]) h
    split at h
    · next heq' =>
      obtain rfl : d = ':' := Option.some.inj heq'
      rw [ok_bind_of_run (run_advance _)] at h
      have hstr := stringForm_of_ok_ignoreString hkey
      rw [rem_succ hb] at hstr
      exact .member hcs hstr (hak.trans (by rw [rem_succ hk])) (ih.value h _ rfl)
    · simp [ok_bind] at h
    · simp [ok_bind] at h
  · simp [ok_bind] at h
  · simp [ok_bind] at h

/-- Skips at one more fuel read what the skips at `fuel` let them. -/
theorem SkipSound.succ {t : ByteArray} {fuel : Nat} (ih : SkipSound t fuel) :
    SkipSound t (fuel + 1) where
  value h := ih.value_succ h
  slots hframe h := ih.slots_succ hframe h
  slot hframe h := ih.slot_succ hframe h

/-- Every successful skip reads a skipped value, slots of a container, or one slot. -/
theorem skipSound (t : ByteArray) : ∀ fuel, SkipSound t fuel
  | 0 => skipSound_zero t
  | fuel + 1 => (skipSound t fuel).succ

/-! ## Completeness -/

/-- A skip at a digit reads a number. -/
theorem ok_ignoreValue_digit {t : ByteArray} {fuel i j : Nat} {u : Unit} {c : Char} {x : List Char}
    (hab : afterBlanks (rem t i) = c :: x) (hc : isDigit c = true) :
    Ok (ignoreValue t (fuel + 1)) i u j ↔ Ok (ignoreInteger t) (blankEnd t i) u j := by
  rw [ignoreValue, ok_bind_of_run (run_skipBlank t i), hab]
  simp only [List.head?_cons]
  split
  case h_1 heq => simp at heq
  case h_9 c' _ _ _ _ _ _ _ heq =>
    obtain rfl : c = c' := Option.some.inj heq
    rw [if_pos hc]
  -- a digit is none of the letters, signs and brackets the other branches take
  all_goals
    rename_i heq
    obtain rfl := Option.some.inj heq
    exact absurd hc (by decide)

/-- A well-formed number that is there, and that nothing extends, is skipped to its end. -/
theorem reads_ignoreInteger {n : NumberToken} {rest : List Char} {k : Nat} (hwf : n.Wellformed)
    (h : rem t k = n.body ++ rest) (hrest : Delimited rest) : Reads t (ignoreInteger t) k () rest := by
  have hbody : n.body ≠ [] := by
    simp [NumberToken.body, hwf.integer.1]
  exact ⟨k + n.body.length, ok_ignoreInteger.2 ⟨n, rest, hwf, h, hrest.ends n, rfl⟩, rem_add h,
    by have := List.length_pos_of_ne_nil hbody; omega, add_length_le_size h hbody⟩

/-- What the skips at fuel `fuel` read when the fuel is enough: a value that nothing extends, the
slots of a container, one slot that a comma or a closing bracket follows. Three units of fuel for
each byte left are enough. -/
structure SkipComplete (t : ByteArray) (fuel : Nat) : Prop where
  value : ∀ {i : Nat} {cs rest : List Char}, SkipText cs rest →
    afterBlanks (rem t i) = afterBlanks cs → Delimited rest → 3 * (t.size - i) ≤ fuel →
    Reads t (ignoreValue t fuel) i () rest
  slots : ∀ {frame : Char} {afterSlot : Bool} {i : Nat} {cs rest : List Char},
    frame = '[' ∨ frame = '\x7b' → SkipSlots frame afterSlot cs rest →
    afterBlanks (rem t i) = afterBlanks cs → 3 * (t.size - i) + 2 ≤ fuel →
    Reads t (ignoreSlots t fuel frame afterSlot) i () rest
  slot : ∀ {frame : Char} {i : Nat} {cs rest : List Char}, SkipSlot frame cs rest →
    afterBlanks (rem t i) = afterBlanks cs → Delimited rest → 3 * (t.size - i) + 1 ≤ fuel →
    Reads t (ignoreSlot t fuel frame) i () rest

theorem skipComplete_zero (t : ByteArray) : SkipComplete t 0 where
  value h hcs _ hfuel := by
    obtain ⟨c, x, hab, -⟩ := h.head
    rw [rem_eq_nil (by omega), hab] at hcs
    simp [afterBlanks] at hcs
  slots _ _ _ hfuel := absurd hfuel (by omega)
  slot _ _ _ hfuel := absurd hfuel (by omega)

/-- A value is skipped with one more fuel: a word, a number, a string, or a container whose slots
the smaller fuel skips. -/
theorem SkipComplete.value_succ {t : ByteArray} {fuel : Nat} (ih : SkipComplete t fuel) {i : Nat}
    {cs rest : List Char} (h : SkipText cs rest) (hcs : afterBlanks (rem t i) = afterBlanks cs)
    (hrest : Delimited rest) (hfuel : 3 * (t.size - i) ≤ fuel + 1) :
    Reads t (ignoreValue t (fuel + 1)) i () rest := by
  rw [ignoreValue]
  cases h with
  | nullWord hw | trueWord hw | falseWord hw =>
    have hab := hcs.trans hw
    refine Reads.skipBlank ?_
    rw [hab]
    exact Reads.advance (reads_parseIdent (rem_succ (rem_blankEnd_of hab)) (by simp))
  | number hnum =>
    obtain ⟨n, hwf, htext⟩ := hnum
    cases hneg : n.negative
    · -- no sign: the first digit chooses the number branch
      obtain ⟨d, x, hbody, hd⟩ := NumberToken.body_eq_cons hwf
      have hab : afterBlanks (rem t i) = d :: (x ++ rest) := by
        rw [hcs, htext, NumberToken.text, hneg, hbody]
        rfl
      have hb : rem t (blankEnd t i) = n.body ++ rest := by
        rw [rem_blankEnd_of hab, hbody]
        rfl
      obtain ⟨j, hj, hrem, hlt, hle⟩ := reads_ignoreInteger hwf hb hrest
      refine ⟨j, (ok_ignoreValue_digit hab hd).2 hj, hrem, ?_, hle⟩
      have := le_blankEnd t i
      omega
    · have hab : afterBlanks (rem t i) = '-' :: (n.body ++ rest) := by
        rw [hcs, htext, NumberToken.text, hneg]
        rfl
      refine Reads.skipBlank ?_
      rw [hab]
      exact Reads.advance (reads_ignoreInteger hwf (rem_succ (rem_blankEnd_of hab)) hrest)
  | string hstr hform =>
    have hab := hcs.trans hstr
    refine Reads.skipBlank ?_
    rw [hab]
    refine Reads.advance (ok_ignoreString_of_stringForm ?_)
    rw [rem_succ (rem_blankEnd_of hab)]
    exact hform
  | @container _ body _ frame hframe hbody hslots =>
    have hab := hcs.trans hbody
    have hb := rem_blankEnd_of hab
    have hnext : Reads t (ignoreSlots t fuel frame false) (blankEnd t i + 1) () rest := by
      refine ih.slots hframe hslots (by rw [rem_succ hb]) ?_
      have := le_blankEnd t i
      have := lt_size_of_rem_eq_cons hb
      omega
    refine Reads.skipBlank ?_
    rw [hab]
    rcases hframe with rfl | rfl
    · exact Reads.advance hnext
    · exact Reads.advance hnext

/-- The slots of a container are skipped with one more fuel: its closing bracket, or a slot
(after a comma unless it is the first) and the slots after it. -/
theorem SkipComplete.slots_succ {t : ByteArray} {fuel : Nat} (ih : SkipComplete t fuel)
    {frame : Char} {afterSlot : Bool} {i : Nat} {cs rest : List Char}
    (hframe : frame = '[' ∨ frame = '\x7b') (h : SkipSlots frame afterSlot cs rest)
    (hcs : afterBlanks (rem t i) = afterBlanks cs) (hfuel : 3 * (t.size - i) + 2 ≤ fuel + 1) :
    Reads t (ignoreSlots t (fuel + 1) frame afterSlot) i () rest := by
  have hi := le_blankEnd t i
  rw [ignoreSlots]
  refine Reads.skipBlank ?_
  cases h with
  | close hclose =>
    have hab := hcs.trans hclose
    rw [hab]
    simp only [List.head?_cons]
    have hcomma : (closer frame == ',' && afterSlot) = false := by
      rcases hframe with rfl | rfl <;> simp [closer]
    rw [if_neg (by simp [hcomma]), if_pos ((isCloser_iff hframe).2 rfl)]
    exact reads_advance (rem_blankEnd_of hab)
  | comma hcomma hslot hslots =>
    have hab := hcs.trans hcomma
    have hb := rem_blankEnd_of hab
    have hlt := lt_size_of_rem_eq_cons hb
    rw [hab]
    simp only [List.head?_cons]
    rw [if_pos (by simp)]
    refine Reads.advance (Reads.bind (ih.slot hslot (by rw [rem_succ hb])
      (hslots.delimited hframe) (by omega)) ?_)
    intro k hk hlt' _
    exact ih.slots hframe hslots (by rw [hk]) (by omega)
  | first hslot hslots =>
    obtain ⟨c, x, hc, hne, hne'⟩ := hslot.head
    rw [hcs, hc]
    simp only [List.head?_cons]
    rw [if_neg (by simp), if_neg (by simp [hne, hne']), if_neg (by simp)]
    refine Reads.bind (ih.slot hslot (by rw [afterBlanks_rem_blankEnd, hcs])
      (hslots.delimited hframe) (by omega)) ?_
    intro k hk hlt' hle'
    exact ih.slots hframe hslots (by rw [hk]) (by omega)

/-- One slot is skipped with one more fuel: a value in an array; a key, a colon and a value in
an object. -/
theorem SkipComplete.slot_succ {t : ByteArray} {fuel : Nat} (ih : SkipComplete t fuel)
    {frame : Char} {i : Nat} {cs rest : List Char} (h : SkipSlot frame cs rest)
    (hcs : afterBlanks (rem t i) = afterBlanks cs) (hrest : Delimited rest)
    (hfuel : 3 * (t.size - i) + 1 ≤ fuel + 1) :
    Reads t (ignoreSlot t (fuel + 1) frame) i () rest := by
  rw [ignoreSlot]
  cases h with
  | item h => exact ih.value h hcs hrest (by omega)
  | member hkey hform hcolon hvalue =>
    have hab := hcs.trans hkey
    have hb := rem_blankEnd_of hab
    simp only [beq_self_eq_true, if_true]
    refine Reads.skipBlank ?_
    rw [hab]
    refine Reads.advance (Reads.bind (ok_ignoreString_of_stringForm (by rw [rem_succ hb]; exact hform)) ?_)
    intro k hk hlt _
    have hk' := rem_blankEnd_of (hk ▸ hcolon)
    refine Reads.skipBlank ?_
    rw [hk, hcolon]
    refine Reads.advance (ih.value hvalue (by rw [rem_succ hk']) hrest ?_)
    have := le_blankEnd t i
    have := le_blankEnd t k
    have := lt_size_of_rem_eq_cons hk'
    omega

/-- Skips at one more fuel read what the skips at `fuel` let them. -/
theorem SkipComplete.succ {t : ByteArray} {fuel : Nat} (ih : SkipComplete t fuel) :
    SkipComplete t (fuel + 1) where
  value h hcs hrest hfuel := ih.value_succ h hcs hrest hfuel
  slots hframe h hcs hfuel := ih.slots_succ hframe h hcs hfuel
  slot h hcs hrest hfuel := ih.slot_succ h hcs hrest hfuel

/-- With three units of fuel for each byte left, every skipped value, slots of a container, or
slot is read to its end. -/
theorem skipComplete (t : ByteArray) : ∀ fuel, SkipComplete t fuel
  | 0 => skipComplete_zero t
  | fuel + 1 => (skipComplete t fuel).succ

end WriteAccess.Json.Reader
