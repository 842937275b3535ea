import WriteAccess.Proofs.JsonText

/-!
# Steps of the reader that succeed

The reader runs in `Scan`, a state of the cursor under exceptions. Only its successful runs
matter for what it accepts, so they get a relation of their own: `Ok x i a j` says that the step
`x` run from index `i` gives `a` and leaves the cursor at `j`. The monad's operations become
rules of this relation (`ok_bind` and the rest), and each small step of the reader gets one
lemma saying exactly when it succeeds, stated on `rem t i`, the characters of the text from the
cursor on. `Reads t x i a rest` is the same for a step that reads the text up to where `rest`
starts, the form in which what a reader accepts is read back.
-/

open WriteAccess.Json.Text

namespace WriteAccess.Json.Reader

variable {α β : Type}

/-- A step that succeeds from index `i` with `a`, leaving the cursor at `j`. -/
def Ok (x : Scan α) (i : Nat) (a : α) (j : Nat) : Prop := x.run.run i = (.ok a, j)

/-! ## The monad -/

theorem run_bind (x : Scan α) (f : α → Scan β) (i : Nat) :
    (x >>= f).run.run i =
      match x.run.run i with
      | (.ok a, j) => (f a).run.run j
      | (.error e, j) => (.error e, j) := by
  simp only [ExceptT.run_bind, StateT.run_bind]
  rcases x.run.run i with ⟨_ | _, j⟩ <;> rfl

theorem run_tryCatch (x : Scan α) (h : Error → Scan α) (i : Nat) :
    (tryCatch x h).run.run i =
      match x.run.run i with
      | (.ok a, j) => (.ok a, j)
      | (.error e, j) => (h e).run.run j := by
  rw [show tryCatch x h = ExceptT.tryCatch x h from rfl]
  rcases hx : x.run.run i with ⟨_ | _, j⟩
  all_goals
    simp only [ExceptT.tryCatch, ExceptT.run_mk, StateT.run_bind]
    erw [hx]
    rfl

/-- A step that never fails succeeds exactly with what it computes. -/
theorem ok_iff_of_run {x : Scan α} {i j k : Nat} {a b : α} (h : x.run.run i = (.ok a, j)) :
    Ok x i b k ↔ b = a ∧ k = j := by
  unfold Ok
  rw [h]
  constructor
  · intro h'
    cases h'
    exact ⟨rfl, rfl⟩
  · rintro ⟨rfl, rfl⟩
    rfl

@[simp] theorem ok_pure {a b : α} {i j : Nat} : Ok (pure a : Scan α) i b j ↔ b = a ∧ j = i :=
  ok_iff_of_run rfl

theorem ok_bind {x : Scan α} {f : α → Scan β} {i k : Nat} {b : β} :
    Ok (x >>= f) i b k ↔ ∃ a j, Ok x i a j ∧ Ok (f a) j b k := by
  unfold Ok
  rw [run_bind]
  constructor
  · intro h
    rcases hx : x.run.run i with ⟨_ | a, j⟩
    · rw [hx] at h
      cases h
    · rw [hx] at h
      exact ⟨a, j, rfl, h⟩
  · rintro ⟨a, j, hx, h⟩
    rw [hx]
    exact h

/-- A step whose run is known passes its result on. -/
theorem ok_bind_of_run {x : Scan α} {f : α → Scan β} {i j k : Nat} {a : α} {b : β}
    (hx : x.run.run i = (.ok a, j)) : Ok (x >>= f) i b k ↔ Ok (f a) j b k := by
  unfold Ok
  rw [run_bind, hx]

theorem ok_map {x : Scan α} {f : α → β} {i k : Nat} {b : β} :
    Ok (f <$> x) i b k ↔ ∃ a, Ok x i a k ∧ b = f a := by
  rw [← bind_pure_comp, ok_bind]
  simp only [ok_pure]
  constructor
  · rintro ⟨a, j, hx, rfl, rfl⟩
    exact ⟨a, hx, rfl⟩
  · rintro ⟨a, hx, rfl⟩
    exact ⟨a, k, hx, rfl, rfl⟩

@[simp] theorem not_ok_throw {e : Error} {a : α} {i j : Nat} : ¬ Ok (throw e : Scan α) i a j := by
  intro h
  cases h

@[simp] theorem ok_get {a i j : Nat} : Ok (get : Scan Nat) i a j ↔ a = i ∧ j = i :=
  ok_iff_of_run rfl

@[simp] theorem ok_set {k i j : Nat} {u : PUnit} : Ok (set k : Scan PUnit) i u j ↔ j = k := by
  rw [ok_iff_of_run (show (set k : Scan PUnit).run.run i = (.ok ⟨⟩, k) from rfl)]
  simp

theorem run_advance (i : Nat) : (advance : Scan Unit).run.run i = (.ok (), i + 1) := rfl

@[simp] theorem ok_advance {i j : Nat} {u : Unit} : Ok advance i u j ↔ j = i + 1 := by
  rw [ok_iff_of_run (run_advance i)]
  simp

theorem ok_tryCatch {x : Scan α} {h : Error → Scan α} {i j : Nat} {a : α} :
    Ok (tryCatch x h) i a j ↔ Ok x i a j ∨ ∃ e k, x.run.run i = (.error e, k) ∧ Ok (h e) k a j := by
  unfold Ok
  rw [run_tryCatch]
  rcases x.run.run i with ⟨e | a', k⟩
  · constructor
    · intro hh
      exact .inr ⟨e, k, rfl, hh⟩
    · rintro (hh | ⟨e', k', heq, hh⟩)
      · cases hh
      · cases heq
        exact hh
  · constructor
    · exact .inl
    · rintro (hh | ⟨e', k', heq, -⟩)
      · exact hh
      · cases heq

@[simp] theorem not_ok_failHere {t : ByteArray} {code : SyntaxCode} {a : α} {i j : Nat} :
    ¬ Ok (failHere t code : Scan α) i a j := by
  simp [failHere, ok_bind]

@[simp] theorem not_ok_failPeeked {t : ByteArray} {code : SyntaxCode} {a : α} {i j : Nat} :
    ¬ Ok (failPeeked t code : Scan α) i a j := by
  simp [failPeeked, ok_bind]

/-- Giving a fault its position changes no successful run. -/
@[simp] theorem ok_fixing {t : ByteArray} {x : Scan α} {i j : Nat} {a : α} :
    Ok (fixing t x) i a j ↔ Ok x i a j := by
  unfold fixing
  rw [ok_tryCatch]
  constructor
  · rintro (h | ⟨e, k, -, h⟩)
    · exact h
    · simp [ok_bind] at h
  · exact .inl

/-- Observing a step always succeeds, with the step's outcome. -/
theorem ok_observe {x : Scan α} {i j : Nat} {r : Except Error α} :
    Ok (observe x) i r j ↔ x.run.run i = (r, j) := by
  unfold observe Ok
  rw [run_tryCatch, run_bind]
  rcases x.run.run i with ⟨e | a, k⟩
  · constructor
    · intro h
      cases h
      rfl
    · intro h
      cases h
      rfl
  · constructor
    · intro h
      cases h
      rfl
    · intro h
      cases h
      rfl

/-- A container is read when its body and then its closing succeed. -/
theorem ok_thenClose {t : Scan α} {close : Scan Unit} {i k : Nat} {a : α} :
    Ok (thenClose t close) i a k ↔ ∃ j, Ok t i a j ∧ Ok close j () k := by
  unfold thenClose
  simp only [ok_bind, ok_observe]
  constructor
  · rintro ⟨r, j, hbody, c, k', hclose, hmatch⟩
    rcases r with e | a'
    · simp at hmatch
    · rcases c with e | u
      · simp at hmatch
      · simp only [ok_pure] at hmatch
        obtain ⟨rfl, rfl⟩ := hmatch
        exact ⟨j, hbody, hclose⟩
  · rintro ⟨j, hbody, hclose⟩
    exact ⟨.ok a, j, hbody, .ok (), k, hclose, by simp⟩

/-! ## The text from the cursor on -/

/-- The characters of the text from index `i` on. -/
def rem (t : ByteArray) (i : Nat) : List Char := (chars t).drop i

theorem length_chars (t : ByteArray) : (chars t).length = t.size := by
  simp [chars]

theorem byteAt_eq (t : ByteArray) (i : Nat) : byteAt t i = (chars t)[i]? := by
  unfold byteAt chars
  rw [List.getElem?_map, Array.getElem?_toList]
  rfl

/-- The byte at the cursor is the first character of what is left. -/
theorem byteAt_eq_head (t : ByteArray) (i : Nat) : byteAt t i = (rem t i).head? := by
  rw [byteAt_eq, rem, List.head?_drop]

theorem rem_succ {t : ByteArray} {i : Nat} {c : Char} {cs : List Char} (h : rem t i = c :: cs) :
    rem t (i + 1) = cs := by
  unfold rem at h ⊢
  rw [← List.drop_drop, h, List.drop_one, List.tail_cons]

theorem rem_add {t : ByteArray} {i : Nat} {cs rest : List Char} (h : rem t i = cs ++ rest) :
    rem t (i + cs.length) = rest := by
  unfold rem at h ⊢
  rw [← List.drop_drop, h, List.drop_left]

theorem length_rem (t : ByteArray) (i : Nat) : (rem t i).length = t.size - i := by
  simp [rem, length_chars]

theorem rem_eq_nil {t : ByteArray} {i : Nat} (h : t.size ≤ i) : rem t i = [] :=
  List.eq_nil_of_length_eq_zero (by rw [length_rem]; omega)

theorem lt_size_of_rem_eq_cons {t : ByteArray} {i : Nat} {c : Char} {cs : List Char}
    (h : rem t i = c :: cs) : i < t.size := by
  have hlen := congrArg List.length h
  rw [length_rem] at hlen
  simp at hlen
  omega

/-- Text that starts at the cursor ends inside the text. -/
theorem add_length_le_size {t : ByteArray} {k : Nat} {xs rest : List Char}
    (h : rem t k = xs ++ rest) (hxs : xs ≠ []) : k + xs.length ≤ t.size := by
  have hlen := congrArg List.length h
  rw [length_rem] at hlen
  simp at hlen
  have := List.length_pos_of_ne_nil hxs
  omega

theorem run_peek (t : ByteArray) (i : Nat) : (peek t).run.run i = (.ok (rem t i).head?, i) := by
  rw [← byteAt_eq_head]
  rfl

theorem run_peekOrNul (t : ByteArray) (i : Nat) :
    (peekOrNul t).run.run i = (.ok ((rem t i).head?.getD '\x00'), i) := by
  rw [← byteAt_eq_head]
  rfl

theorem run_next (t : ByteArray) (i : Nat) :
    (next t).run.run i =
      (.ok (rem t i).head?, if ((rem t i).head?).isSome then i + 1 else i) := by
  unfold next
  rw [run_bind, run_peek]
  cases (rem t i).head? <;> rfl

@[simp] theorem ok_peek {t : ByteArray} {i j : Nat} {c : Option Char} :
    Ok (peek t) i c j ↔ c = (rem t i).head? ∧ j = i :=
  ok_iff_of_run (run_peek t i)

@[simp] theorem ok_peekOrNul {t : ByteArray} {i j : Nat} {c : Char} :
    Ok (peekOrNul t) i c j ↔ c = ((rem t i).head?).getD '\x00' ∧ j = i :=
  ok_iff_of_run (run_peekOrNul t i)

@[simp] theorem ok_next {t : ByteArray} {i j : Nat} {c : Option Char} :
    Ok (next t) i c j ↔
      c = (rem t i).head? ∧ j = (if ((rem t i).head?).isSome then i + 1 else i) :=
  ok_iff_of_run (run_next t i)

/-! ## Blanks -/

/-- Inside the text, what is left is the byte at the cursor and the text after it. -/
theorem rem_eq_getElem_cons {t : ByteArray} {i : Nat} (hi : i < t.size) :
    rem t i = Char.ofNat t[i].toNat :: rem t (i + 1) := by
  unfold rem chars
  rw [List.drop_eq_getElem_cons (by simpa using hi)]
  simp [ByteArray.getElem_eq_getElem_data]

/-- The blanks from index `i` on end where the text after them starts. -/
theorem rem_blankEnd (t : ByteArray) (i : Nat) : rem t (blankEnd t i) = afterBlanks (rem t i) := by
  fun_induction blankEnd t i with
  | case1 i hi hblank ih =>
    rw [ih, rem_eq_getElem_cons hi]
    unfold afterBlanks
    rw [List.dropWhile_cons_of_pos hblank]
  | case2 i hi hblank =>
    rw [rem_eq_getElem_cons hi]
    unfold afterBlanks
    rw [List.dropWhile_cons_of_neg (by simpa using hblank)]
  | case3 i hi =>
    have hnil : rem t i = [] := by
      unfold rem
      simp [length_chars]
      omega
    rw [hnil]
    rfl

theorem le_blankEnd (t : ByteArray) (i : Nat) : i ≤ blankEnd t i := by
  fun_induction blankEnd t i with
  | case1 i hi hblank ih => omega
  | case2 => exact Nat.le_refl _
  | case3 => exact Nat.le_refl _

theorem afterBlanks_afterBlanks (cs : List Char) :
    afterBlanks (afterBlanks cs) = afterBlanks cs := by
  unfold afterBlanks
  induction cs with
  | nil => rfl
  | cons c cs ih =>
    by_cases h : isBlankByte c = true
    · rw [List.dropWhile_cons_of_pos h, ih]
    · rw [List.dropWhile_cons_of_neg h, List.dropWhile_cons_of_neg h]

/-- The character after the blanks at the cursor, where `skipBlank` leaves it. -/
theorem rem_blankEnd_of {t : ByteArray} {i : Nat} {c : Char} {r : List Char}
    (h : afterBlanks (rem t i) = c :: r) : rem t (blankEnd t i) = c :: r := by
  rw [rem_blankEnd, h]

/-- Blanks skipped leave the text after them as it was. -/
theorem afterBlanks_rem_blankEnd (t : ByteArray) (i : Nat) :
    afterBlanks (rem t (blankEnd t i)) = afterBlanks (rem t i) := by
  rw [rem_blankEnd, afterBlanks_afterBlanks]

theorem run_skipBlank (t : ByteArray) (i : Nat) :
    (skipBlank t).run.run i = (.ok (afterBlanks (rem t i)).head?, blankEnd t i) := by
  rw [← rem_blankEnd, ← byteAt_eq_head]
  rfl

@[simp] theorem ok_skipBlank {t : ByteArray} {i j : Nat} {c : Option Char} :
    Ok (skipBlank t) i c j ↔ c = (afterBlanks (rem t i)).head? ∧ j = blankEnd t i :=
  ok_iff_of_run (run_skipBlank t i)

/-- A step that looks past the blanks and fails at the end of the text succeeds only on a
character there, going on from where the blanks end. -/
theorem ok_skipBlank_bind_cons {t : ByteArray} {x : Option Char → Scan α} {i j : Nat} {a : α}
    (hend : ¬ Ok (x none) (blankEnd t i) a j) (h : Ok (skipBlank t >>= x) i a j) :
    ∃ c r, afterBlanks (rem t i) = c :: r ∧ rem t (blankEnd t i) = c :: r ∧
      Ok (x (some c)) (blankEnd t i) a j := by
  rw [ok_bind_of_run (run_skipBlank t i)] at h
  rcases hab : afterBlanks (rem t i) with _ | ⟨c, r⟩
  · rw [hab] at h
    exact absurd h hend
  · rw [hab] at h
    exact ⟨c, r, rfl, rem_blankEnd_of hab, h⟩

/-! ## Literal words -/

/-- The rest of a literal word is read exactly when the text goes on with it. -/
theorem ok_parseIdent {t : ByteArray} :
    ∀ {w : List Char} {i j : Nat} {u : Unit},
      Ok (parseIdent t w) i u j ↔ ∃ rest, rem t i = w ++ rest ∧ j = i + w.length
  | [], i, j, u => by simp [parseIdent, eq_comm]
  | c :: w, i, j, u => by
    unfold parseIdent
    rw [ok_bind]
    simp only [ok_next]
    constructor
    · rintro ⟨d, k, ⟨rfl, rfl⟩, hmatch⟩
      cases hrem : rem t i with
      | nil => simp [hrem] at hmatch
      | cons c' cs =>
        simp only [hrem, List.head?_cons, Option.isSome_some, if_true] at hmatch
        by_cases hcc : c' = c
        · subst hcc
          simp only [beq_self_eq_true, if_true] at hmatch
          obtain ⟨rest, hrest, rfl⟩ := ok_parseIdent.1 hmatch
          rw [rem_succ hrem] at hrest
          exact ⟨rest, by simp [hrest], by simp; omega⟩
        · simp [hcc] at hmatch
    · rintro ⟨rest, hrest, rfl⟩
      have hrem : rem t i = c :: (w ++ rest) := hrest
      refine ⟨some c, i + 1, ⟨by simp [hrem], by simp [hrem]⟩, ?_⟩
      simp only [beq_self_eq_true, if_true]
      exact ok_parseIdent.2 ⟨rest, rem_succ hrem, by simp; omega⟩

/-! ## Reading a text up to a given rest -/

/-- A step run from index `i` gives `a` and stops where the text `rest` starts, having read at
least one byte of the text. -/
def Reads (t : ByteArray) (x : Scan α) (i : Nat) (a : α) (rest : List Char) : Prop :=
  ∃ j, Ok x i a j ∧ rem t j = rest ∧ i < j ∧ j ≤ t.size

section Reads

variable {t : ByteArray}

/-- Two steps read one after the other; the second starts where the first stopped. -/
theorem Reads.bind {x : Scan α} {f : α → Scan β} {a : α} {b : β} {i : Nat} {r rest : List Char}
    (hx : Reads t x i a r) (hf : ∀ j, rem t j = r → i < j → j ≤ t.size → Reads t (f a) j b rest) :
    Reads t (x >>= f) i b rest := by
  obtain ⟨j, hok, hj, hij, hjs⟩ := hx
  obtain ⟨k, hok', hk, hjk, hks⟩ := hf j hj hij hjs
  exact ⟨k, ok_bind.2 ⟨a, j, hok, hok'⟩, hk, by omega, hks⟩

/-- A step after the blanks reads from the cursor what it reads from the first non-blank. -/
theorem Reads.skipBlank {x : Option Char → Scan α} {a : α} {i : Nat} {rest : List Char}
    (h : Reads t (x (afterBlanks (rem t i)).head?) (blankEnd t i) a rest) :
    Reads t (Reader.skipBlank t >>= x) i a rest := by
  obtain ⟨j, hok, hj, hlt, hle⟩ := h
  have := le_blankEnd t i
  exact ⟨j, (ok_bind_of_run (run_skipBlank t i)).2 hok, hj, by omega, hle⟩

theorem Reads.advance {k : Scan α} {a : α} {b : Nat} {rest : List Char}
    (h : Reads t k (b + 1) a rest) : Reads t (Reader.advance >>= fun _ => k) b a rest := by
  obtain ⟨j, hok, hj, hlt, hle⟩ := h
  exact ⟨j, (ok_bind_of_run (run_advance b)).2 hok, hj, by omega, hle⟩

theorem reads_advance {b : Nat} {c : Char} {r : List Char} (h : rem t b = c :: r) :
    Reads t Reader.advance b () r :=
  ⟨b + 1, ok_advance.2 rfl, rem_succ h, by omega, lt_size_of_rem_eq_cons h⟩

theorem Reads.map {x : Scan α} {f : α → β} {a : α} {i : Nat} {rest : List Char}
    (h : Reads t x i a rest) : Reads t (f <$> x) i (f a) rest := by
  obtain ⟨j, hok, hj, hlt, hle⟩ := h
  exact ⟨j, ok_map.2 ⟨a, hok, rfl⟩, hj, hlt, hle⟩

theorem Reads.bind_pure {x : Scan α} {f : α → β} {a : α} {i : Nat}
    {rest : List Char} (h : Reads t x i a rest) :
    Reads t (x >>= fun a => pure (f a)) i (f a) rest := by
  obtain ⟨j, hok, hj, hlt, hle⟩ := h
  exact ⟨j, ok_bind.2 ⟨a, j, hok, ok_pure.2 ⟨rfl, rfl⟩⟩, hj, hlt, hle⟩

theorem Reads.fixing {x : Scan α} {a : α} {i : Nat} {rest : List Char}
    (h : Reads t x i a rest) : Reads t (Reader.fixing t x) i a rest := by
  obtain ⟨j, hok, hj, hlt, hle⟩ := h
  exact ⟨j, ok_fixing.2 hok, hj, hlt, hle⟩

/-- A word that is there is read to its end. -/
theorem reads_parseIdent {w rest : List Char} {k : Nat} (h : rem t k = w ++ rest) (hw : w ≠ []) :
    Reads t (parseIdent t w) k () rest :=
  ⟨k + w.length, ok_parseIdent.2 ⟨rest, h, rfl⟩, rem_add h,
    by have := List.length_pos_of_ne_nil hw; omega, add_length_le_size h hw⟩

end Reads

end WriteAccess.Json.Reader
