import WriteAccess.Proofs.ScanSteps

/-!
# The numbers the reader accepts

`parseInteger` reads a number after its sign and `ignoreInteger` skips one. Both succeed exactly
when the text at the cursor starts with a well-formed number (`NumberToken.Wellformed`) that the
text does not go on with (`NumberToken.Ends`: no digit after it, and no exponent letter or decimal
point where the number could still take one), and both stop right after it; `parseInteger` gives
the number's value (`NumberToken.value`) and fails when it has none.

The loops over digits run on the digits at the cursor, `(rem t i).takeWhile isDigit`; the rest of
the reader is taken one function at a time, from the end of a number back to its start.
-/

open WriteAccess.Numeric

namespace WriteAccess.Json.Text

open Reader

/-- Where a reader stops after a number: at no digit, at no exponent letter unless the number
has its exponent, and at no decimal point unless it has a fraction or an exponent. -/
structure NumberToken.Ends (n : NumberToken) (rest : List Char) : Prop where
  digit : ∀ c ∈ rest.head?, isDigit c = false
  letter : n.exponent = none → ∀ c ∈ rest.head?, c ≠ 'e' ∧ c ≠ 'E'
  point : n.fraction = none → n.exponent = none → ∀ c ∈ rest.head?, c ≠ '.'

end WriteAccess.Json.Text

open WriteAccess.Json.Text

namespace WriteAccess.Json.Reader

/-! ## Runs of digits -/

theorem isDigit_nul : isDigit '\x00' = false := by decide

/-- The digits at the start of a text are the run that the first non-digit ends. -/
theorem takeWhile_digits {ds rest : List Char} (hds : ∀ c ∈ ds, isDigit c = true)
    (hrest : ∀ c ∈ rest.head?, isDigit c = false) : (ds ++ rest).takeWhile isDigit = ds := by
  rw [List.takeWhile_append_of_pos hds]
  cases rest with
  | nil => simp
  | cons c cs =>
    have hc : ¬ isDigit c = true := by simp [hrest c rfl]
    simp [List.takeWhile_cons_of_neg hc]

theorem rem_nil_succ {t : ByteArray} {i : Nat} (h : rem t i = []) : rem t (i + 1) = [] := by
  unfold rem at h ⊢
  rw [← List.drop_drop, h, List.drop_nil]

theorem length_rem_le (t : ByteArray) (i : Nat) : (rem t i).length ≤ t.size := by
  simp [rem, length_chars]

/-- The run of digits at the cursor is empty, with no digit there for a loop to read, or a digit
followed by the run at the next index. -/
theorem takeWhile_rem_cases (t : ByteArray) (i : Nat) :
    ((rem t i).takeWhile isDigit = [] ∧ isDigit ((rem t i).head?.getD '\x00') = false) ∨
    ∃ c, (rem t i).head? = some c ∧ isDigit c = true ∧
      (rem t i).takeWhile isDigit = c :: (rem t (i + 1)).takeWhile isDigit := by
  cases h : rem t i with
  | nil => exact .inl ⟨rfl, isDigit_nul⟩
  | cons c cs =>
    by_cases hc : isDigit c = true
    · exact .inr ⟨c, rfl, hc, by rw [List.takeWhile_cons_of_pos hc, rem_succ h]⟩
    · exact .inl ⟨List.takeWhile_cons_of_neg hc, by simpa using hc⟩

/-- The digits left over by `takeDigits` are a suffix of its digits. -/
theorem takeDigits_suffix (limit : Nat) :
    ∀ (acc : Nat) (ds : List Char), (takeDigits limit acc ds).2 <:+ ds
  | _, [] => List.suffix_refl []
  | acc, c :: cs => by
    unfold takeDigits
    split
    · exact List.suffix_refl _
    · exact (takeDigits_suffix limit _ cs).trans (List.suffix_cons c cs)

/-! ## Loops over digits -/

theorem run_skipDigits (t : ByteArray) : ∀ (fuel i : Nat),
    (skipDigits t fuel).run.run i = (.ok (), i + min fuel ((rem t i).takeWhile isDigit).length)
  | 0, i => by simp [skipDigits]; rfl
  | fuel + 1, i => by
    rw [skipDigits, run_bind, run_peekOrNul]
    rcases takeWhile_rem_cases t i with ⟨hnil, hstop⟩ | ⟨c, hhead, hc, hcons⟩
    · simp [hnil, hstop]
      rfl
    · simp only [hhead, Option.getD_some, hc, if_true]
      rw [run_bind]
      show (skipDigits t fuel).run.run (i + 1) = _
      rw [run_skipDigits t fuel (i + 1), hcons]
      simp only [List.length_cons]
      congr 1
      omega

/-- The digits after a decimal point are taken while the significand fits 64 bits. -/
theorem run_fractionDigits {t : ByteArray} : ∀ {fuel acc count i kept : Nat} {ds left : List Char},
    (rem t i).takeWhile isDigit = ds → ds.length ≤ fuel →
    takeDigits u64Max acc ds = (kept, left) →
    (fractionDigits t acc count fuel).run.run i =
      (.ok (kept, count + (ds.length - left.length), !left.isEmpty),
        i + (ds.length - left.length))
  | 0, acc, count, i, kept, ds, left, hds, hfuel, htake => by
    obtain rfl : ds = [] := List.eq_nil_of_length_eq_zero (by omega)
    simp only [takeDigits, Prod.mk.injEq] at htake
    obtain ⟨rfl, rfl⟩ := htake
    rfl
  | fuel + 1, acc, count, i, kept, ds, left, hds, hfuel, htake => by
    rw [fractionDigits, run_bind, run_peekOrNul]
    rcases takeWhile_rem_cases t i with ⟨hnil, hstop⟩ | ⟨c, hhead, hc, hcons⟩
    · -- no digit at the cursor: the loop stops there
      rw [hnil] at hds
      subst hds
      simp only [takeDigits, Prod.mk.injEq] at htake
      obtain ⟨rfl, rfl⟩ := htake
      simp [hstop]
      rfl
    · rw [hcons] at hds
      subst hds
      simp only [hhead, Option.getD_some, hc, if_true]
      unfold takeDigits at htake
      by_cases hov : overflows acc (digitValue c) u64Max = true
      · simp only [hov, if_true, Prod.mk.injEq] at htake
        obtain ⟨rfl, rfl⟩ := htake
        simp [hov]
        rfl
      · simp only [hov, Bool.false_eq_true, if_false] at htake ⊢
        rw [run_bind]
        show (fractionDigits t _ _ fuel).run.run (i + 1) = _
        generalize hds : (rem t (i + 1)).takeWhile isDigit = ds at htake hfuel ⊢
        have hsuffix := (takeDigits_suffix u64Max (acc * 10 + digitValue c) ds).length_le
        rw [htake] at hsuffix
        simp only at hsuffix
        rw [run_fractionDigits hds (by simp at hfuel; omega) htake]
        have hcount : count + 1 + (ds.length - left.length) =
            count + (ds.length + 1 - left.length) := by omega
        have hpos : i + 1 + (ds.length - left.length) = i + (ds.length + 1 - left.length) := by
          omega
        simp only [List.length_cons, hcount, hpos]

/-- The digits of an exponent are taken while they fit 32 bits; the first digit that does not is
read, and the loop gives up. -/
theorem run_exponentDigits {t : ByteArray} : ∀ {fuel acc i e : Nat} {ds left : List Char},
    (rem t i).takeWhile isDigit = ds → ds.length ≤ fuel →
    takeDigits i32Max acc ds = (e, left) →
    (exponentDigits t acc fuel).run.run i =
      if left = [] then (.ok (some e), i + ds.length)
      else (.ok none, i + (ds.length - left.length) + 1)
  | 0, acc, i, e, ds, left, hds, hfuel, htake => by
    obtain rfl : ds = [] := List.eq_nil_of_length_eq_zero (by omega)
    simp only [takeDigits, Prod.mk.injEq] at htake
    obtain ⟨rfl, rfl⟩ := htake
    rfl
  | fuel + 1, acc, i, e, ds, left, hds, hfuel, htake => by
    rw [exponentDigits, run_bind, run_peekOrNul]
    rcases takeWhile_rem_cases t i with ⟨hnil, hstop⟩ | ⟨c, hhead, hc, hcons⟩
    · -- no digit at the cursor: the loop stops there
      rw [hnil] at hds
      subst hds
      simp only [takeDigits, Prod.mk.injEq] at htake
      obtain ⟨rfl, rfl⟩ := htake
      simp [hstop]
      rfl
    · rw [hcons] at hds
      subst hds
      simp only [hhead, Option.getD_some, hc, if_true]
      rw [run_bind]
      show (if overflows acc (digitValue c) i32Max = true then pure none
        else exponentDigits t (acc * 10 + digitValue c) fuel).run.run (i + 1) = _
      unfold takeDigits at htake
      by_cases hov : overflows acc (digitValue c) i32Max = true
      · simp only [hov, if_true, Prod.mk.injEq] at htake
        obtain ⟨rfl, rfl⟩ := htake
        simp [hov]
        rfl
      · simp only [hov, Bool.false_eq_true, if_false] at htake ⊢
        generalize hds : (rem t (i + 1)).takeWhile isDigit = ds at htake hfuel ⊢
        have hsuffix := (takeDigits_suffix i32Max (acc * 10 + digitValue c) ds).length_le
        rw [htake] at hsuffix
        simp only at hsuffix
        rw [run_exponentDigits hds (by simp at hfuel; omega) htake]
        have hpos : i + 1 + (ds.length - left.length) = i + (ds.length + 1 - left.length) := by
          omega
        simp only [List.length_cons, hpos]
        split <;> simp_all

/-- The integer digits are taken while the significand fits 64 bits; from the first digit that
does not, the number goes on as a long integer. -/
theorem run_integerDigits {t : ByteArray} {positive : Bool} :
    ∀ {fuel acc i sig : Nat} {ds left : List Char},
    (rem t i).takeWhile isDigit = ds → ds.length ≤ fuel →
    takeDigits u64Max acc ds = (sig, left) →
    (integerDigits t positive acc fuel).run.run i =
      if left = [] then (parseNumber t positive sig).run.run (i + ds.length)
      else (parseLongInteger t positive sig 0 t.size).run.run (i + (ds.length - left.length))
  | 0, acc, i, sig, ds, left, hds, hfuel, htake => by
    obtain rfl : ds = [] := List.eq_nil_of_length_eq_zero (by omega)
    simp only [takeDigits, Prod.mk.injEq] at htake
    obtain ⟨rfl, rfl⟩ := htake
    rfl
  | fuel + 1, acc, i, sig, ds, left, hds, hfuel, htake => by
    rw [integerDigits, run_bind, run_peekOrNul]
    rcases takeWhile_rem_cases t i with ⟨hnil, hstop⟩ | ⟨c, hhead, hc, hcons⟩
    · -- no digit at the cursor: the number goes on from there
      rw [hnil] at hds
      subst hds
      simp only [takeDigits, Prod.mk.injEq] at htake
      obtain ⟨rfl, rfl⟩ := htake
      simp [hstop]
    · rw [hcons] at hds
      subst hds
      simp only [hhead, Option.getD_some, hc, if_true]
      unfold takeDigits at htake
      by_cases hov : overflows acc (digitValue c) u64Max = true
      · simp only [hov, if_true, Prod.mk.injEq] at htake ⊢
        obtain ⟨rfl, rfl⟩ := htake
        simp
      · simp only [hov, Bool.false_eq_true, if_false] at htake ⊢
        rw [run_bind]
        show (integerDigits t positive _ fuel).run.run (i + 1) = _
        generalize hds : (rem t (i + 1)).takeWhile isDigit = ds at htake hfuel ⊢
        have hsuffix := (takeDigits_suffix u64Max (acc * 10 + digitValue c) ds).length_le
        rw [htake] at hsuffix
        simp only at hsuffix
        rw [run_integerDigits hds (by simp at hfuel; omega) htake]
        have hpos : i + 1 + (ds.length - left.length) = i + (ds.length + 1 - left.length) := by
          omega
        simp only [List.length_cons, hpos, Nat.add_assoc, Nat.add_comm 1]

/-- Where no digit follows, a long integer ends the same whatever its fuel. -/
theorem run_parseLongInteger_stop {t : ByteArray} {positive : Bool} {sig shift i : Nat}
    (hstop : ∀ c ∈ (rem t i).head?, isDigit c = false) (fuel : Nat) :
    (parseLongInteger t positive sig shift (fuel + 1)).run.run i =
      (parseLongInteger t positive sig shift 1).run.run i := by
  rw [parseLongInteger, parseLongInteger, run_bind, run_bind, run_peekOrNul]
  have hc : isDigit ((rem t i).head?.getD '\x00') = false := by
    cases h : (rem t i).head? with
    | none => exact isDigit_nul
    | some c => exact hstop c h
  simp only
  split <;> simp [hc]

/-- The digits of a long integer each raise its power of ten. -/
theorem run_parseLongInteger {t : ByteArray} {positive : Bool} {sig : Nat} :
    ∀ {fuel shift i : Nat} {ds : List Char}, (rem t i).takeWhile isDigit = ds → ds.length < fuel →
    (parseLongInteger t positive sig shift fuel).run.run i =
      (parseLongInteger t positive sig (shift + ds.length) 1).run.run (i + ds.length)
  | 0, _, _, _, _, hfuel => absurd hfuel (Nat.not_lt_zero _)
  | fuel + 1, shift, i, ds, hds, hfuel => by
    cases h : rem t i with
    | nil =>
      rw [h, List.takeWhile_nil] at hds
      subst hds
      exact run_parseLongInteger_stop (by simp [h]) fuel
    | cons c cs =>
      by_cases hc : isDigit c = true
      · rw [h, List.takeWhile_cons_of_pos hc] at hds
        subst hds
        rw [parseLongInteger, run_bind, run_peekOrNul, h]
        simp only [List.head?_cons, Option.getD_some]
        split
        · exact absurd hc (by decide)
        · exact absurd hc (by decide)
        · exact absurd hc (by decide)
        · simp only [hc, if_true]
          rw [run_bind]
          show (parseLongInteger t positive sig (shift + 1) fuel).run.run (i + 1) = _
          have hrest : (rem t (i + 1)).takeWhile isDigit = cs.takeWhile isDigit := by
            rw [rem_succ h]
          rw [run_parseLongInteger hrest (by simp at hfuel; omega)]
          simp only [List.length_cons, Nat.add_assoc, Nat.add_comm 1]
      · rw [h, List.takeWhile_cons_of_neg hc] at hds
        subst hds
        exact run_parseLongInteger_stop (by simp [h]; simpa using hc) fuel

/-- The text at the cursor is its leading digits, then text that starts with no digit. -/
theorem rem_digits (t : ByteArray) (i : Nat) :
    rem t i = (rem t i).takeWhile isDigit ++ (rem t i).dropWhile isDigit :=
  List.takeWhile_append_dropWhile.symm

theorem noDigit_dropWhile (cs : List Char) :
    ∀ c ∈ (cs.dropWhile isDigit).head?, isDigit c = false := by
  intro c hc
  have h := List.head?_dropWhile_not isDigit cs
  rw [Option.mem_def.1 hc] at h
  exact h

/-- The run of digits at the cursor fits the text, is written there, and no digit follows it. -/
theorem digitsAt (t : ByteArray) (k : Nat) :
    ((rem t k).takeWhile isDigit).length ≤ t.size ∧
      rem t k = (rem t k).takeWhile isDigit ++ rem t (k + ((rem t k).takeWhile isDigit).length) ∧
      ∀ c ∈ (rem t (k + ((rem t k).takeWhile isDigit).length)).head?, isDigit c = false := by
  have hsplit := rem_digits t k
  refine ⟨((List.takeWhile_prefix isDigit).length_le).trans (length_rem_le t k), ?_, ?_⟩
  · rw [rem_add hsplit]
    exact hsplit
  · rw [rem_add hsplit]
    exact noDigit_dropWhile _

theorem noDigit_of_takeWhile_nil {cs : List Char} (h : cs.takeWhile isDigit = []) :
    ∀ c ∈ cs.head?, isDigit c = false := by
  intro c hc
  cases cs with
  | nil => simp at hc
  | cons d ds =>
    simp only [List.head?_cons, Option.mem_def, Option.some.injEq] at hc
    subst hc
    cases hd : isDigit d with
    | false => rfl
    | true =>
      rw [List.takeWhile_cons_of_pos hd] at h
      exact absurd h (List.cons_ne_nil _ _)

theorem isDigits_takeWhile {cs : List Char} (h : cs.takeWhile isDigit ≠ []) :
    IsDigits (cs.takeWhile isDigit) :=
  ⟨h, fun _ hc => List.mem_takeWhile_imp hc⟩

/-- From a suffix of the digits at the cursor on, the digits ahead are that suffix. -/
theorem takeWhile_rem_of_suffix {t : ByteArray} {i : Nat} {ds left : List Char}
    (hds : (rem t i).takeWhile isDigit = ds) (hleft : left <:+ ds) :
    (rem t (i + (ds.length - left.length))).takeWhile isDigit = left := by
  obtain ⟨pre, rfl⟩ := hleft
  have hrem : rem t i = pre ++ (left ++ (rem t i).dropWhile isDigit) := by
    rw [← List.append_assoc, ← hds]
    exact rem_digits t i
  have hall : ∀ c ∈ pre ++ left, isDigit c = true := by
    rw [← hds]
    exact fun _ hc => List.mem_takeWhile_imp hc
  simp only [List.length_append, Nat.add_sub_cancel]
  rw [rem_add hrem]
  exact takeWhile_digits (fun c hc => hall c (by simp [hc])) (noDigit_dropWhile _)

/-- From any suffix of the digits at the cursor on, skipping digits ends after all of them. -/
theorem run_skipDigits_suffix {t : ByteArray} {i : Nat} {ds left : List Char}
    (hds : (rem t i).takeWhile isDigit = ds) (hleft : left <:+ ds) :
    (skipDigits t t.size).run.run (i + (ds.length - left.length)) = (.ok (), i + ds.length) := by
  have hrest := takeWhile_rem_of_suffix hds hleft
  have hbound : left.length ≤ t.size := by
    rw [← hrest]
    exact (List.takeWhile_prefix isDigit).length_le.trans (length_rem_le t _)
  have hlen := hleft.length_le
  rw [run_skipDigits, hrest, Nat.min_eq_right hbound]
  congr 1
  omega

/-! ## Exponents -/

theorem ok_floatFromParts {t : ByteArray} {positive : Bool} {sig : Nat} {e : Int} {i j : Nat}
    {v : Number} : Ok (floatFromParts t positive sig e) i v j ↔ floatValue positive sig e = some v ∧ j = i := by
  unfold floatFromParts floatValue
  split
  · next f hf =>
    rw [hf, ok_pure, Option.map_some, Option.some.injEq]
    constructor
    · rintro ⟨rfl, rfl⟩
      exact ⟨rfl, rfl⟩
    · rintro ⟨rfl, rfl⟩
      exact ⟨rfl, rfl⟩
  · next hf =>
    rw [hf]
    simp

/-- The digits of an exponent, read up to the first non-digit, give its value. -/
theorem ok_exponentRest_of {t : ByteArray} {positive upward : Bool} {sig : Nat} {start : Int}
    {k j : Nat} {v : Number} {ds rest : List Char} (hds : IsDigits ds) (hrem : rem t k = ds ++ rest)
    (hstop : ∀ c ∈ rest.head?, isDigit c = false) :
    Ok (exponentRest t positive sig start upward) k v j ↔
      exponentValue positive sig start upward ds = some v ∧ j = k + ds.length := by
  obtain ⟨hne, hdig⟩ := hds
  obtain ⟨d, ds', rfl⟩ := List.exists_cons_of_ne_nil hne
  have hd : isDigit d = true := hdig d (by simp)
  have hrem' : rem t k = d :: (ds' ++ rest) := hrem
  have hnext : (next t).run.run k = (.ok (some d), k + 1) := by
    rw [run_next, hrem']
    rfl
  have hrun : (rem t (k + 1)).takeWhile isDigit = ds' := by
    rw [rem_succ hrem']
    exact takeWhile_digits (fun c hc => hdig c (by simp [hc])) hstop
  have hfuel : ds'.length ≤ t.size := by
    have := length_rem_le t (k + 1)
    rw [rem_succ hrem'] at this
    simp at this
    omega
  unfold exponentRest
  rw [ok_bind_of_run hnext]
  simp only [hd, Bool.not_true, Bool.false_eq_true, if_false]
  rcases htake : takeDigits i32Max (digitValue d) ds' with ⟨e, left⟩
  have hexp := run_exponentDigits hrun hfuel htake
  cases left with
  | nil =>
    rw [if_pos rfl] at hexp
    rw [ok_bind_of_run hexp]
    simp only
    rw [ok_floatFromParts]
    simp only [exponentValue, htake, List.length_cons]
    constructor
    · rintro ⟨hv, rfl⟩
      exact ⟨hv, by omega⟩
    · rintro ⟨hv, rfl⟩
      exact ⟨hv, by omega⟩
  | cons l0 ltail =>
    rw [if_neg (List.cons_ne_nil _ _)] at hexp
    rw [ok_bind_of_run hexp]
    simp only [exponentValue, htake]
    by_cases hcond : (decide (sig ≠ 0) && upward) = true
    · rw [if_pos hcond, if_pos hcond]
      simp
    · rw [if_neg hcond, if_neg hcond]
      have hsuffix : ltail <:+ ds' := by
        have := takeDigits_suffix i32Max (digitValue d) ds'
        rw [htake] at this
        exact (List.suffix_cons l0 ltail).trans this
      have hskip := run_skipDigits_suffix hrun hsuffix
      have hpos : k + 1 + (ds'.length - (l0 :: ltail).length) + 1 =
          k + 1 + (ds'.length - ltail.length) := by
        have := hsuffix.length_le
        have := (takeDigits_suffix i32Max (digitValue d) ds').length_le
        rw [htake] at this
        simp at this ⊢
        omega
      rw [hpos, ok_bind_of_run hskip, ok_pure]
      simp only [List.length_cons]
      constructor
      · rintro ⟨rfl, rfl⟩
        exact ⟨rfl, by omega⟩
      · rintro ⟨hv, rfl⟩
        exact ⟨(Option.some.inj hv).symm, by omega⟩

/-- With no digit at the cursor there is no exponent. -/
theorem not_ok_exponentRest {t : ByteArray} {positive upward : Bool} {sig : Nat} {start : Int}
    {k j : Nat} {v : Number} (hstop : ∀ c ∈ (rem t k).head?, isDigit c = false) :
    ¬ Ok (exponentRest t positive sig start upward) k v j := by
  unfold exponentRest
  rw [ok_bind]
  rintro ⟨c, k1, hnext, h⟩
  obtain ⟨rfl, rfl⟩ := ok_next.1 hnext
  cases hh : (rem t k).head? with
  | none => simp [hh] at h
  | some d => simp [hh, hstop d hh] at h

/-- The digits of an exponent after its sign: all the digits at the cursor, at least one. -/
theorem ok_exponentRest {t : ByteArray} {positive upward : Bool} {sig : Nat} {start : Int}
    {k j : Nat} {v : Number} :
    Ok (exponentRest t positive sig start upward) k v j ↔
      ∃ ds rest, IsDigits ds ∧ rem t k = ds ++ rest ∧ (∀ c ∈ rest.head?, isDigit c = false) ∧
        exponentValue positive sig start upward ds = some v ∧ j = k + ds.length := by
  constructor
  · intro h
    by_cases hnil : (rem t k).takeWhile isDigit = []
    · exact absurd h (not_ok_exponentRest (noDigit_of_takeWhile_nil hnil))
    · have hds := isDigits_takeWhile hnil
      obtain ⟨hv, hj⟩ := (ok_exponentRest_of hds (rem_digits t k) (noDigit_dropWhile _)).1 h
      exact ⟨_, _, hds, rem_digits t k, noDigit_dropWhile _, hv, hj⟩
  · rintro ⟨ds, rest, hds, hrem, hstop, hv, rfl⟩
    exact (ok_exponentRest_of hds hrem hstop).2 ⟨hv, rfl⟩

/-- The text of an exponent after its letter: its sign as written, then its digits. -/
theorem Exponent.text_eq {x : Exponent} {letter : Char} {r rest : List Char}
    (h : letter :: r = x.text ++ rest) : x.letter = letter ∧ r = x.sign.toList ++ (x.digits ++ rest) := by
  simp only [Exponent.text, List.cons_append, List.cons.injEq, List.append_assoc] at h
  exact ⟨h.1.symm, h.2⟩

/-- What follows the letter of an exponent starts with its sign, or with a digit when it has none. -/
theorem Exponent.sign_of_head {x : Exponent} {r rest : List Char} {c : Char}
    (hsign : ∀ c ∈ x.sign, c = '+' ∨ c = '-') (hdigits : IsDigits x.digits)
    (hr : r = x.sign.toList ++ (x.digits ++ rest)) (hc : r.head?.getD '\x00' = c) :
    (c = '+' ∨ c = '-') ∧ x.sign = some c ∨ isDigit c = true ∧ x.sign = none := by
  obtain ⟨hne, hdig⟩ := hdigits
  obtain ⟨d, ds, hds⟩ := List.exists_cons_of_ne_nil hne
  cases hs : x.sign with
  | none =>
    rw [hs, hds] at hr
    subst hr
    simp only [Option.toList_none, List.nil_append, List.cons_append, List.head?_cons,
      Option.getD_some] at hc
    subst hc
    exact .inr ⟨hdig d (by simp [hds]), rfl⟩
  | some s =>
    rw [hs] at hr
    subst hr
    simp only [Option.toList_some, List.cons_append, List.nil_append, List.head?_cons,
      Option.getD_some] at hc
    subst hc
    exact .inl ⟨hsign s hs, rfl⟩

/-- A sign the reader sees after the letter is the sign of the exponent written there. -/
theorem Exponent.sign_of_signed_head {x : Exponent} {r rest : List Char} {c : Char}
    (hsign : ∀ c ∈ x.sign, c = '+' ∨ c = '-') (hdigits : IsDigits x.digits)
    (hr : r = x.sign.toList ++ (x.digits ++ rest)) (hc : r.head?.getD '\x00' = c)
    (hpm : c = '+' ∨ c = '-') : x.sign = some c := by
  rcases Exponent.sign_of_head hsign hdigits hr hc with ⟨-, hs⟩ | ⟨hd, -⟩
  · exact hs
  · rcases hpm with rfl | rfl <;> exact absurd hd (by decide)

/-- With no sign after the letter, the exponent written there has none. -/
theorem Exponent.sign_of_unsigned_head {x : Exponent} {r rest : List Char}
    (hsign : ∀ c ∈ x.sign, c = '+' ∨ c = '-') (hdigits : IsDigits x.digits)
    (hr : r = x.sign.toList ++ (x.digits ++ rest)) (hplus : ¬ r.head?.getD '\x00' = '+')
    (hminus : ¬ r.head?.getD '\x00' = '-') : x.sign = none := by
  rcases Exponent.sign_of_head hsign hdigits hr rfl with ⟨hpm, -⟩ | ⟨-, hs⟩
  · exact (hpm.elim hplus hminus).elim
  · exact hs

/-- The exponents written after a letter with the sign the reader takes: its sign, then digits
up to the first non-digit. -/
theorem Exponent.exists_text_iff {letter : Char} {r r' : List Char} {s : Option Char}
    (hs : ∀ c ∈ s, c = '+' ∨ c = '-') (hr : r = s.toList ++ r')
    (hsign : ∀ x : Exponent, (∀ c ∈ x.sign, c = '+' ∨ c = '-') → IsDigits x.digits →
      ∀ rest, r = x.sign.toList ++ (x.digits ++ rest) → x.sign = s)
    (Q : Exponent → List Char → Prop) :
    (∃ ds rest, IsDigits ds ∧ r' = ds ++ rest ∧ (∀ c ∈ rest.head?, isDigit c = false) ∧
        Q ⟨letter, s, ds⟩ rest) ↔
      ∃ x rest, (∀ c ∈ x.sign, c = '+' ∨ c = '-') ∧ IsDigits x.digits ∧
        letter :: r = x.text ++ rest ∧ (∀ c ∈ rest.head?, isDigit c = false) ∧ Q x rest := by
  constructor
  · rintro ⟨ds, rest, hds, hr', hstop, hq⟩
    exact ⟨⟨letter, s, ds⟩, rest, hs, hds, by simp [Exponent.text, hr, hr'], hstop, hq⟩
  · rintro ⟨x, rest, hxsign, hdig, hx, hstop, hq⟩
    obtain ⟨hletter, hr''⟩ := Exponent.text_eq hx
    have hxs := hsign x hxsign hdig rest hr''
    rw [hr, hxs] at hr''
    refine ⟨x.digits, rest, hdig, List.append_cancel_left hr'', hstop, ?_⟩
    rw [← hletter, ← hxs]
    exact hq

/-- A text whose first character, read as `NUL` at the end, is not `NUL` starts with it. -/
theorem eq_cons_of_head_getD {r : List Char} {c : Char} (h : r.head?.getD '\x00' = c)
    (hc : c ≠ '\x00') : r = c :: r.tail := by
  cases r with
  | nil => exact absurd h.symm hc
  | cons d ds =>
    simp only [List.head?_cons, Option.getD_some] at h
    rw [h, List.tail_cons]

/-- An exponent: its letter, an optional sign, and all the digits after them, at least one. -/
theorem ok_parseExponent {t : ByteArray} {positive : Bool} {sig : Nat} {start : Int} {i j : Nat}
    {v : Number} :
    Ok (parseExponent t positive sig start) i v j ↔
      ∃ x rest, (∀ c ∈ x.sign, c = '+' ∨ c = '-') ∧ IsDigits x.digits ∧ rem t i = x.text ++ rest ∧
        (∀ c ∈ rest.head?, isDigit c = false) ∧ withExponent positive sig start (some x) = some v ∧
        j = i + x.text.length := by
  unfold parseExponent
  rw [ok_bind_of_run (show (advance : Scan Unit).run.run i = (.ok (), i + 1) from rfl),
    ok_bind_of_run (run_peekOrNul t (i + 1))]
  cases h : rem t i with
  | nil =>
    -- nothing is left: the reader finds no digit, and no exponent is written
    have h1 := rem_nil_succ h
    rw [h1]
    show Ok (exponentRest t positive sig start true) (i + 1) v j ↔ _
    constructor
    · intro hok
      exact absurd hok (not_ok_exponentRest (by simp [h1]))
    · rintro ⟨x, rest, -, -, hrem, -⟩
      simp [Exponent.text] at hrem
  | cons letter r =>
    rw [rem_succ h]
    have hadvance : (advance : Scan Unit).run.run (i + 1) = (.ok (), i + 1 + 1) := rfl
    -- the sign the reader takes, then the digits after it; a written exponent has that sign
    have key : ∀ (s : Option Char) (r' : List Char) (upward : Bool),
        (∀ c ∈ s, c = '+' ∨ c = '-') → r = s.toList ++ r' → upward = decide (s ≠ some '-') →
        (∀ x : Exponent, (∀ c ∈ x.sign, c = '+' ∨ c = '-') → IsDigits x.digits →
          ∀ rest, r = x.sign.toList ++ (x.digits ++ rest) → x.sign = s) →
        (Ok (exponentRest t positive sig start upward) (i + 1 + s.toList.length) v j ↔
          ∃ x rest, (∀ c ∈ x.sign, c = '+' ∨ c = '-') ∧ IsDigits x.digits ∧
            letter :: r = x.text ++ rest ∧ (∀ c ∈ rest.head?, isDigit c = false) ∧
            withExponent positive sig start (some x) = some v ∧ j = i + x.text.length) := by
      intro s r' upward hs hr hup hsign
      have hrem : rem t (i + 1 + s.toList.length) = r' := by
        have h1 : rem t (i + 1) = s.toList ++ r' := by rw [rem_succ h, hr]
        exact rem_add h1
      rw [ok_exponentRest, hrem]
      refine Iff.trans ?_ (Exponent.exists_text_iff hs hr hsign fun x rest =>
        withExponent positive sig start (some x) = some v ∧ j = i + x.text.length)
      refine exists_congr fun ds => exists_congr fun rest => and_congr_right fun _ =>
        and_congr_right fun _ => and_congr_right fun _ => ?_
      simp only [withExponent, Exponent.text, hup, List.length_cons, List.length_append]
      constructor
      · rintro ⟨hv, rfl⟩
        exact ⟨hv, by omega⟩
      · rintro ⟨hv, rfl⟩
        exact ⟨hv, by omega⟩
    split
    · next hc =>
      rw [ok_bind_of_run hadvance]
      exact key (some '+') r.tail true (by simp) (eq_cons_of_head_getD hc (by decide)) (by decide)
        fun x hxsign hdig rest hr => Exponent.sign_of_signed_head hxsign hdig hr hc (.inl rfl)
    · next hc =>
      rw [ok_bind_of_run hadvance]
      exact key (some '-') r.tail false (by simp) (eq_cons_of_head_getD hc (by decide)) (by decide)
        fun x hxsign hdig rest hr => Exponent.sign_of_signed_head hxsign hdig hr hc (.inr rfl)
    · next hplus hminus =>
      exact key none r true (by simp) rfl (by decide)
        fun x hxsign hdig rest hr => Exponent.sign_of_unsigned_head hxsign hdig hr hplus hminus

/-- The digits of an exponent after its sign are skipped: all the digits at the cursor, at least
one. -/
theorem ok_ignoreExponentRest {t : ByteArray} {k j : Nat} {u : Unit} :
    Ok (ignoreExponentRest t) k u j ↔
      ∃ ds rest, IsDigits ds ∧ rem t k = ds ++ rest ∧ (∀ c ∈ rest.head?, isDigit c = false) ∧
        j = k + ds.length := by
  unfold ignoreExponentRest
  rw [ok_bind_of_run (run_next t k)]
  cases h : rem t k with
  | nil =>
    simp only [List.head?_nil, Option.getD_none, isDigit_nul, Bool.not_false, if_true]
    constructor
    · intro hok
      simp [ok_bind] at hok
    · rintro ⟨ds, rest, ⟨hne, -⟩, hrem, -⟩
      exact (hne (List.append_eq_nil_iff.1 hrem.symm).1).elim
  | cons d r =>
    simp only [List.head?_cons, Option.getD_some, Option.isSome_some, if_true]
    by_cases hd : isDigit d = true
    · simp only [hd, Bool.not_true, Bool.false_eq_true, if_false]
      rw [ok_iff_of_run (run_skipDigits t t.size (k + 1)), rem_succ h]
      have hbound : (r.takeWhile isDigit).length ≤ t.size := by
        have := length_rem_le t (k + 1)
        rw [rem_succ h] at this
        have := (List.takeWhile_prefix isDigit (l := r)).length_le
        omega
      rw [Nat.min_eq_right hbound]
      have hrun : (d :: r).takeWhile isDigit = d :: r.takeWhile isDigit :=
        List.takeWhile_cons_of_pos hd
      constructor
      · rintro ⟨-, rfl⟩
        refine ⟨(d :: r).takeWhile isDigit, (d :: r).dropWhile isDigit,
          isDigits_takeWhile (by simp [hrun]), List.takeWhile_append_dropWhile.symm,
          noDigit_dropWhile _, ?_⟩
        rw [hrun, List.length_cons]
        omega
      · rintro ⟨ds, rest, hds, hrem, hstop, rfl⟩
        have hds' : (d :: r).takeWhile isDigit = ds := by
          rw [hrem]
          exact takeWhile_digits hds.2 hstop
        rw [hrun] at hds'
        subst hds'
        exact ⟨rfl, by simp; omega⟩
    · simp only [hd, Bool.not_false, if_true]
      constructor
      · intro hok
        simp [ok_bind] at hok
      · rintro ⟨ds, rest, ⟨hne, hdig⟩, hrem, -⟩
        obtain ⟨d', ds', rfl⟩ := List.exists_cons_of_ne_nil hne
        simp only [List.cons_append, List.cons.injEq] at hrem
        rw [hrem.1] at hd
        exact (hd (hdig d' (by simp))).elim

/-- An exponent is skipped: its letter, an optional sign, and all the digits after them, at least
one. -/
theorem ok_ignoreExponent {t : ByteArray} {i j : Nat} {u : Unit} :
    Ok (ignoreExponent t) i u j ↔
      ∃ (x : Exponent) (rest : List Char), (∀ c ∈ x.sign, c = '+' ∨ c = '-') ∧ IsDigits x.digits ∧ rem t i = x.text ++ rest ∧
        (∀ c ∈ rest.head?, isDigit c = false) ∧ j = i + x.text.length := by
  unfold ignoreExponent
  rw [ok_bind_of_run (show (advance : Scan Unit).run.run i = (.ok (), i + 1) from rfl),
    ok_bind_of_run (run_peekOrNul t (i + 1))]
  cases h : rem t i with
  | nil =>
    have h1 := rem_nil_succ h
    rw [h1]
    show Ok (ignoreExponentRest t) (i + 1) u j ↔ _
    constructor
    · intro hok
      obtain ⟨ds, rest, ⟨hne, -⟩, hrem, -⟩ := ok_ignoreExponentRest.1 hok
      exact (hne (List.append_eq_nil_iff.1 (h1 ▸ hrem).symm).1).elim
    · rintro ⟨x, rest, -, -, hrem, -⟩
      simp [Exponent.text] at hrem
  | cons letter r =>
    rw [rem_succ h]
    have hadvance : (advance : Scan Unit).run.run (i + 1) = (.ok (), i + 1 + 1) := rfl
    -- the sign the reader skips, then the digits after it; a written exponent has that sign
    have key : ∀ (s : Option Char) (r' : List Char),
        (∀ c ∈ s, c = '+' ∨ c = '-') → r = s.toList ++ r' →
        (∀ x : Exponent, (∀ c ∈ x.sign, c = '+' ∨ c = '-') → IsDigits x.digits →
          ∀ rest, r = x.sign.toList ++ (x.digits ++ rest) → x.sign = s) →
        (Ok (ignoreExponentRest t) (i + 1 + s.toList.length) u j ↔
          ∃ (x : Exponent) (rest : List Char), (∀ c ∈ x.sign, c = '+' ∨ c = '-') ∧ IsDigits x.digits ∧
            letter :: r = x.text ++ rest ∧ (∀ c ∈ rest.head?, isDigit c = false) ∧
            j = i + x.text.length) := by
      intro s r' hs hr hsign
      have hrem : rem t (i + 1 + s.toList.length) = r' := by
        have h1 : rem t (i + 1) = s.toList ++ r' := by rw [rem_succ h, hr]
        exact rem_add h1
      rw [ok_ignoreExponentRest, hrem]
      refine Iff.trans ?_ (Exponent.exists_text_iff hs hr hsign fun (x : Exponent) _ =>
        j = i + x.text.length)
      refine exists_congr fun ds => exists_congr fun rest => and_congr_right fun _ =>
        and_congr_right fun _ => and_congr_right fun _ => ?_
      simp only [Exponent.text, List.length_cons, List.length_append]
      omega
    split
    · next hc =>
      rw [ok_bind_of_run hadvance]
      exact key (some '+') r.tail (by simp) (eq_cons_of_head_getD hc (by decide))
        fun x hxsign hdig rest hr => Exponent.sign_of_signed_head hxsign hdig hr hc (.inl rfl)
    · next hc =>
      rw [ok_bind_of_run hadvance]
      exact key (some '-') r.tail (by simp) (eq_cons_of_head_getD hc (by decide))
        fun x hxsign hdig rest hr => Exponent.sign_of_signed_head hxsign hdig hr hc (.inr rfl)
    · next hplus hminus =>
      exact key none r (by simp) rfl
        fun x hxsign hdig rest hr => Exponent.sign_of_unsigned_head hxsign hdig hr hplus hminus

/-! ## Fractions -/

/-- What follows the digits of a number starts with no digit when they were all of its digits. -/
theorem noDigit_exponentText {x : Option Exponent} {rest : List Char}
    (hx : ∀ y ∈ x, y.Wellformed) (hstop : ∀ c ∈ rest.head?, isDigit c = false) :
    ∀ c ∈ (NumberToken.exponentText x ++ rest).head?, isDigit c = false := by
  cases x with
  | none => exact hstop
  | some y =>
    intro c hc
    simp only [NumberToken.exponentText, Exponent.text, List.cons_append, List.head?_cons,
      Option.mem_def, Option.some.injEq] at hc
    subst hc
    rcases (hx y rfl).letter with h | h <;> rw [h] <;> decide

/-- Digits written before an exponent, or before a text that starts with no digit, are all the
digits there. -/
theorem takeWhile_exponentText {ds rest : List Char} {x : Option Exponent} (hds : IsDigits ds)
    (hx : ∀ y ∈ x, y.Wellformed) (hstop : ∀ c ∈ rest.head?, isDigit c = false) :
    (ds ++ NumberToken.exponentText x ++ rest).takeWhile isDigit = ds := by
  rw [List.append_assoc, takeWhile_digits hds.2 (noDigit_exponentText hx hstop)]

/-- With an exponent letter at the cursor, an exponent is read. -/
theorem ok_parseExponent_of_letter {t : ByteArray} {k : Nat} {c : Char}
    (hc : (rem t k).head?.getD '\x00' = c) (hce : c = 'e' ∨ c = 'E') :
    ∀ {v : Number} {j : Nat} {positive : Bool} {sig : Nat} {e : Int},
    Ok (parseExponent t positive sig e) k v j ↔
      ∃ (x : Option Exponent) (rest : List Char), (∀ y ∈ x, y.Wellformed) ∧
        rem t k = NumberToken.exponentText x ++ rest ∧
        (x = none → ∀ c ∈ rest.head?, c ≠ 'e' ∧ c ≠ 'E') ∧
        (∀ c ∈ rest.head?, isDigit c = false) ∧ withExponent positive sig e x = some v ∧
        j = k + (NumberToken.exponentText x).length := by
  intro v j positive sig e
  have hne : c ≠ '\x00' := by rcases hce with rfl | rfl <;> decide
  have hrem := eq_cons_of_head_getD hc hne
  rw [ok_parseExponent]
  constructor
  · rintro ⟨x, rest, hsign, hdig, hx, hstop, hv, rfl⟩
    have hletter : x.letter = c := (Exponent.text_eq (hrem ▸ hx)).1
    exact ⟨some x, rest, fun y hy => Option.some.inj hy ▸ ⟨hletter ▸ hce, hsign, hdig⟩, hx,
      fun h => absurd h (by simp), hstop, hv, rfl⟩
  · rintro ⟨x, rest, hwf, hx, hnone, hstop, hv, rfl⟩
    cases x with
    | none =>
      simp only [NumberToken.exponentText, List.nil_append] at hx
      have hhead : rest.head? = some c := by
        rw [← hx, hrem]
        rfl
      have hnot := hnone rfl c hhead
      rcases hce with rfl | rfl
      · exact (hnot.1 rfl).elim
      · exact (hnot.2 rfl).elim
    | some y =>
      have hy := hwf y rfl
      exact ⟨y, rest, hy.sign, hy.digits, hx, hstop, hv, rfl⟩

/-- After the digits of a number, an exponent or the end. -/
theorem ok_exponentOrEnd {t : ByteArray} {positive : Bool} {sig : Nat} {e : Int} {k j : Nat}
    {v : Number} (hk : ∀ c ∈ (rem t k).head?, isDigit c = false) :
    Ok (exponentOrEnd t positive sig e) k v j ↔
      ∃ (x : Option Exponent) (rest : List Char), (∀ y ∈ x, y.Wellformed) ∧
        rem t k = NumberToken.exponentText x ++ rest ∧
        (x = none → ∀ c ∈ rest.head?, c ≠ 'e' ∧ c ≠ 'E') ∧
        (∀ c ∈ rest.head?, isDigit c = false) ∧ withExponent positive sig e x = some v ∧
        j = k + (NumberToken.exponentText x).length := by
  unfold exponentOrEnd
  rw [ok_bind_of_run (run_peekOrNul t k)]
  split
  · next hc => exact ok_parseExponent_of_letter hc (.inl rfl)
  · next hc => exact ok_parseExponent_of_letter hc (.inr rfl)
  · next he hE =>
    rw [ok_floatFromParts]
    have hletter : ∀ c ∈ (rem t k).head?, c ≠ 'e' ∧ c ≠ 'E' := by
      intro c hc
      have hget : (rem t k).head?.getD '\x00' = c := by
        rw [Option.mem_def.1 hc]
        rfl
      exact ⟨fun h => he (hget.trans h), fun h => hE (hget.trans h)⟩
    constructor
    · rintro ⟨hv, hj⟩
      exact ⟨none, rem t k, by simp, rfl, fun _ => hletter, hk, hv,
        by simp [hj, NumberToken.exponentText]⟩
    · rintro ⟨x, rest, hwf, hx, -, -, hv, rfl⟩
      cases x with
      | none => exact ⟨hv, by simp [NumberToken.exponentText]⟩
      | some y =>
        -- an exponent starts with its letter, and none is at the cursor
        have hnot := hletter y.letter (by simp [hx, NumberToken.exponentText, Exponent.text])
        rcases (hwf y rfl).letter with h | h
        · exact (hnot.1 h).elim
        · exact (hnot.2 h).elim

/-- A fraction after its decimal point: all the digits at the cursor, at least one, then an
exponent or the end. -/
theorem ok_parseDecimal {t : ByteArray} {positive : Bool} {sig : Nat} {before : Int} {i j : Nat}
    {v : Number} :
    Ok (parseDecimal t positive sig before) i v j ↔
      ∃ (ds : List Char) (x : Option Exponent) (rest : List Char), IsDigits ds ∧
        (∀ y ∈ x, y.Wellformed) ∧ rem t (i + 1) = ds ++ NumberToken.exponentText x ++ rest ∧
        (x = none → ∀ c ∈ rest.head?, c ≠ 'e' ∧ c ≠ 'E') ∧
        (∀ c ∈ rest.head?, isDigit c = false) ∧ fractionValue positive sig before ds x = some v ∧
        j = i + 1 + ds.length + (NumberToken.exponentText x).length := by
  unfold parseDecimal
  rw [ok_bind_of_run (show (advance : Scan Unit).run.run i = (.ok (), i + 1) from rfl)]
  obtain ⟨hfuel, hrem, hk⟩ := digitsAt t (i + 1)
  obtain ⟨ds, hds⟩ : ∃ ds, (rem t (i + 1)).takeWhile isDigit = ds := ⟨_, rfl⟩
  rw [hds] at hfuel hrem hk
  rcases htake : takeDigits u64Max sig ds with ⟨kept, left⟩
  rw [ok_bind_of_run (run_fractionDigits hds hfuel htake)]
  dsimp only
  simp only [Nat.zero_add]
  -- however many digits joined the significand, the reader goes on after all of them
  have key : (ds ≠ [] ∧ Ok (exponentOrEnd t positive kept (before - (ds.length - left.length : Nat)))
      (i + 1 + ds.length) v j) ↔
      ∃ (ds' : List Char) (x : Option Exponent) (rest : List Char), IsDigits ds' ∧
        (∀ y ∈ x, y.Wellformed) ∧ rem t (i + 1) = ds' ++ NumberToken.exponentText x ++ rest ∧
        (x = none → ∀ c ∈ rest.head?, c ≠ 'e' ∧ c ≠ 'E') ∧
        (∀ c ∈ rest.head?, isDigit c = false) ∧ fractionValue positive sig before ds' x = some v ∧
        j = i + 1 + ds'.length + (NumberToken.exponentText x).length := by
    rw [ok_exponentOrEnd hk]
    constructor
    · rintro ⟨hne, x, rest, hwf, hx, hnone, hstop, hv, rfl⟩
      refine ⟨ds, x, rest, hds ▸ isDigits_takeWhile (hds ▸ hne), hwf, ?_, hnone, hstop, ?_,
        by omega⟩
      · rw [hrem, hx, List.append_assoc]
      · simpa only [fractionValue, htake] using hv
    · rintro ⟨ds', x, rest, hds', hwf, hx, hnone, hstop, hv, rfl⟩
      have hsame : ds' = ds := by
        rw [← hds, hx, takeWhile_exponentText hds' hwf hstop]
      subst hsame
      rw [List.append_assoc] at hx
      refine ⟨hds'.1, x, rest, hwf, rem_add hx, hnone, hstop, ?_, by omega⟩
      simpa only [fractionValue, htake] using hv
  cases left with
  | nil =>
    simp only [List.isEmpty_nil, Bool.not_true, Bool.false_eq_true, if_false, List.length_nil,
      Nat.sub_zero] at key ⊢
    by_cases hne : ds = []
    · -- no digit after the point: no number
      rw [if_pos (by simp [hne]), ← key]
      simp only [hne, ne_eq, not_true_eq_false, false_and, iff_false]
      rw [ok_bind_of_run (run_peek t _)]
      split <;> simp
    · rw [if_neg (by simpa using hne), ← key]
      exact ⟨fun h => ⟨hne, h⟩, fun h => h.2⟩
  | cons l0 ltail =>
    simp only [List.isEmpty_cons, Bool.not_false, if_true]
    have hsuffix : l0 :: ltail <:+ ds := by
      have := takeDigits_suffix u64Max sig ds
      rw [htake] at this
      exact this
    rw [ok_bind_of_run (run_skipDigits_suffix hds hsuffix), ← key]
    exact ⟨fun h => ⟨fun hnil => by simp [hnil] at hsuffix, h⟩, fun h => h.2⟩

/-- With an exponent letter at the cursor, an exponent is skipped. -/
theorem ok_ignoreExponent_of_letter {t : ByteArray} {k : Nat} {c : Char}
    (hc : (rem t k).head?.getD '\x00' = c) (hce : c = 'e' ∨ c = 'E') {u : Unit} {j : Nat} :
    Ok (ignoreExponent t) k u j ↔
      ∃ (x : Option Exponent) (rest : List Char), (∀ y ∈ x, y.Wellformed) ∧
        rem t k = NumberToken.exponentText x ++ rest ∧
        (x = none → ∀ c ∈ rest.head?, c ≠ 'e' ∧ c ≠ 'E') ∧
        (∀ c ∈ rest.head?, isDigit c = false) ∧ j = k + (NumberToken.exponentText x).length := by
  have hne : c ≠ '\x00' := by rcases hce with rfl | rfl <;> decide
  have hrem := eq_cons_of_head_getD hc hne
  rw [ok_ignoreExponent]
  constructor
  · rintro ⟨x, rest, hsign, hdig, hx, hstop, rfl⟩
    have hletter : x.letter = c := (Exponent.text_eq (hrem ▸ hx)).1
    exact ⟨some x, rest, fun y hy => Option.some.inj hy ▸ ⟨hletter ▸ hce, hsign, hdig⟩, hx,
      fun h => absurd h (by simp), hstop, rfl⟩
  · rintro ⟨x, rest, hwf, hx, hnone, hstop, rfl⟩
    cases x with
    | none =>
      simp only [NumberToken.exponentText, List.nil_append] at hx
      have hhead : rest.head? = some c := by
        rw [← hx, hrem]
        rfl
      have hnot := hnone rfl c hhead
      rcases hce with rfl | rfl
      · exact (hnot.1 rfl).elim
      · exact (hnot.2 rfl).elim
    | some y =>
      have hy := hwf y rfl
      exact ⟨y, rest, hy.sign, hy.digits, hx, hstop, rfl⟩

/-- A fraction is skipped after its decimal point: all the digits at the cursor, at least one,
then an exponent or the end. -/
theorem ok_ignoreDecimal {t : ByteArray} {i j : Nat} {u : Unit} :
    Ok (ignoreDecimal t) i u j ↔
      ∃ (ds : List Char) (x : Option Exponent) (rest : List Char), IsDigits ds ∧
        (∀ y ∈ x, y.Wellformed) ∧ rem t (i + 1) = ds ++ NumberToken.exponentText x ++ rest ∧
        (x = none → ∀ c ∈ rest.head?, c ≠ 'e' ∧ c ≠ 'E') ∧
        (∀ c ∈ rest.head?, isDigit c = false) ∧
        j = i + 1 + ds.length + (NumberToken.exponentText x).length := by
  unfold ignoreDecimal
  obtain ⟨hfuel, hsplit, hk⟩ := digitsAt t (i + 1)
  obtain ⟨ds, hds⟩ : ∃ ds, (rem t (i + 1)).takeWhile isDigit = ds := ⟨_, rfl⟩
  rw [hds] at hfuel hsplit hk
  have hskip : (skipDigits t t.size).run.run (i + 1) = (.ok (), i + 1 + ds.length) := by
    rw [run_skipDigits, hds, Nat.min_eq_right hfuel]
  rw [ok_bind_of_run (show (advance : Scan Unit).run.run i = (.ok (), i + 1) from rfl),
    ok_bind_of_run (show (get : Scan Nat).run.run (i + 1) = (.ok (i + 1), i + 1) from rfl),
    ok_bind_of_run hskip,
    ok_bind_of_run (show (get : Scan Nat).run.run (i + 1 + ds.length) =
      (.ok (i + 1 + ds.length), i + 1 + ds.length) from rfl)]
  by_cases hne : ds = []
  · -- no digit after the point: no number
    rw [if_pos (by simp [hne])]
    simp only [ok_bind, not_ok_failPeeked, false_and, exists_false, false_iff]
    rintro ⟨ds', x, rest, hds', hwf, hx, -, hstop, -⟩
    have hsame : ds' = ds := by
      rw [← hds, hx, takeWhile_exponentText hds' hwf hstop]
    exact hds'.1 (hsame.trans hne)
  · rw [if_neg (by simpa using hne)]
    dsimp only
    rw [ok_bind_of_run (run_peekOrNul t _)]
    -- the exponent or the end after the digits, written after exactly those digits
    have key : (∃ (x : Option Exponent) (rest : List Char), (∀ y ∈ x, y.Wellformed) ∧
        rem t (i + 1 + ds.length) = NumberToken.exponentText x ++ rest ∧
        (x = none → ∀ c ∈ rest.head?, c ≠ 'e' ∧ c ≠ 'E') ∧
        (∀ c ∈ rest.head?, isDigit c = false) ∧
        j = i + 1 + ds.length + (NumberToken.exponentText x).length) ↔
        ∃ (ds' : List Char) (x : Option Exponent) (rest : List Char), IsDigits ds' ∧
          (∀ y ∈ x, y.Wellformed) ∧ rem t (i + 1) = ds' ++ NumberToken.exponentText x ++ rest ∧
          (x = none → ∀ c ∈ rest.head?, c ≠ 'e' ∧ c ≠ 'E') ∧
          (∀ c ∈ rest.head?, isDigit c = false) ∧
          j = i + 1 + ds'.length + (NumberToken.exponentText x).length := by
      constructor
      · rintro ⟨x, rest, hwf, hx, hnone, hstop, rfl⟩
        exact ⟨ds, x, rest, hds ▸ isDigits_takeWhile (hds ▸ hne), hwf,
          by rw [hsplit, hx, List.append_assoc], hnone, hstop, rfl⟩
      · rintro ⟨ds', x, rest, hds', hwf, hx, hnone, hstop, rfl⟩
        have hsame : ds' = ds := by
          rw [← hds, hx, takeWhile_exponentText hds' hwf hstop]
        subst hsame
        rw [List.append_assoc] at hx
        exact ⟨x, rest, hwf, rem_add hx, hnone, hstop, rfl⟩
    rw [← key]
    split
    · next hc => exact ok_ignoreExponent_of_letter hc (.inl rfl)
    · next hc => exact ok_ignoreExponent_of_letter hc (.inr rfl)
    · next he hE =>
      have hletter : ∀ c ∈ (rem t (i + 1 + ds.length)).head?, c ≠ 'e' ∧ c ≠ 'E' := by
        intro c hc
        have hget : (rem t (i + 1 + ds.length)).head?.getD '\x00' = c := by
          rw [Option.mem_def.1 hc]
          rfl
        exact ⟨fun h => he (hget.trans h), fun h => hE (hget.trans h)⟩
      rw [ok_pure]
      constructor
      · rintro ⟨-, hj⟩
        exact ⟨none, _, by simp, rfl, fun _ => hletter, hk, by simp [hj, NumberToken.exponentText]⟩
      · rintro ⟨x, rest, hwf, hx, -, -, rfl⟩
        cases x with
        | none => exact ⟨rfl, by simp [NumberToken.exponentText]⟩
        | some y =>
          have hnot := hletter y.letter (by simp [hx, NumberToken.exponentText, Exponent.text])
          rcases (hwf y rfl).letter with h | h
          · exact (hnot.1 h).elim
          · exact (hnot.2 h).elim

/-! ## Whole numbers -/

/-- The first character of what follows the integer digits of a number: the decimal point of its
fraction, the letter of its exponent, or the first character after the number. -/
theorem head_tailText (frac : Option (List Char)) (x : Option Exponent) (rest : List Char) :
    (NumberToken.fractionText frac ++ NumberToken.exponentText x ++ rest).head? =
      match frac, x with
      | some _, _ => some '.'
      | none, some y => some y.letter
      | none, none => rest.head? := by
  cases frac <;> cases x <;> simp [NumberToken.fractionText, NumberToken.exponentText, Exponent.text]

/-- The character peeked at where the integer digits of a number end tells what is written
there: a decimal point exactly when a fraction is, an exponent letter exactly when an exponent is
and no fraction. -/
theorem peek_tailText {frac : Option (List Char)} {x : Option Exponent} {rest : List Char}
    {c0 : Char} (hx : ∀ y ∈ x, y.Wellformed)
    (hpoint : frac = none → x = none → ∀ c ∈ rest.head?, c ≠ '.')
    (hnone : x = none → ∀ c ∈ rest.head?, c ≠ 'e' ∧ c ≠ 'E')
    (hc0 : (NumberToken.fractionText frac ++ NumberToken.exponentText x ++ rest).head?.getD '\x00' =
      c0) :
    (c0 = '.' ↔ frac.isSome) ∧ ((c0 = 'e' ∨ c0 = 'E') ↔ frac = none ∧ x.isSome) := by
  have h := head_tailText frac x rest
  cases frac with
  | some ds =>
    simp only at h
    rw [h, Option.getD_some] at hc0
    subst hc0
    simp
  | none =>
    cases x with
    | some y =>
      simp only at h
      rw [h, Option.getD_some] at hc0
      subst hc0
      rcases (hx y rfl).letter with hl | hl <;> rw [hl] <;> simp
    | none =>
      simp only at h
      cases hr : rest.head? with
      | none =>
        rw [h, hr] at hc0
        subst hc0
        simp
      | some c =>
        rw [h, hr, Option.getD_some] at hc0
        subst hc0
        have := hpoint rfl rfl c hr
        have := hnone rfl c hr
        simp_all

/-- What follows the integer digits of a number, read from the cursor: a decimal point starts a
fraction (and an exponent may follow it), an exponent letter starts an exponent, and anything
else ends the number. `P frac x` is what the step finds of the fraction and exponent written. -/
theorem ok_numberTail {α : Type} {t : ByteArray} {m : Scan α} {k j : Nat} {a : α} {c0 : Char}
    (P : Option (List Char) → Option Exponent → Prop)
    (hk : ∀ c ∈ (rem t k).head?, isDigit c = false) (hc0 : (rem t k).head?.getD '\x00' = c0)
    (hfraction : c0 = '.' → (Ok m k a j ↔
      ∃ (ds : List Char) (x : Option Exponent) (rest : List Char), IsDigits ds ∧
        (∀ y ∈ x, y.Wellformed) ∧ rem t (k + 1) = ds ++ NumberToken.exponentText x ++ rest ∧
        (x = none → ∀ c ∈ rest.head?, c ≠ 'e' ∧ c ≠ 'E') ∧
        (∀ c ∈ rest.head?, isDigit c = false) ∧ P (some ds) x ∧
        j = k + 1 + ds.length + (NumberToken.exponentText x).length))
    (hexponent : c0 = 'e' ∨ c0 = 'E' → (Ok m k a j ↔
      ∃ (y : Exponent) (rest : List Char), (∀ c ∈ y.sign, c = '+' ∨ c = '-') ∧
        IsDigits y.digits ∧ rem t k = y.text ++ rest ∧ (∀ c ∈ rest.head?, isDigit c = false) ∧
        P none (some y) ∧ j = k + y.text.length))
    (hend : c0 ≠ '.' → ¬(c0 = 'e' ∨ c0 = 'E') → (Ok m k a j ↔ P none none ∧ j = k)) :
    Ok m k a j ↔
      ∃ (frac : Option (List Char)) (x : Option Exponent) (rest : List Char),
        (∀ ds ∈ frac, IsDigits ds) ∧ (∀ y ∈ x, y.Wellformed) ∧
        rem t k = NumberToken.fractionText frac ++ NumberToken.exponentText x ++ rest ∧
        (∀ c ∈ rest.head?, isDigit c = false) ∧
        (x = none → ∀ c ∈ rest.head?, c ≠ 'e' ∧ c ≠ 'E') ∧
        (frac = none → x = none → ∀ c ∈ rest.head?, c ≠ '.') ∧ P frac x ∧
        j = k + (NumberToken.fractionText frac ++ NumberToken.exponentText x).length := by
  by_cases hp : c0 = '.'
  · rw [hfraction hp]
    have hrem : rem t k = '.' :: rem t (k + 1) := by
      have h := eq_cons_of_head_getD (hp ▸ hc0) (by decide)
      rw [h, rem_succ h]
    constructor
    · rintro ⟨ds, x, rest, hds, hx, htext, hnone, hstop, hP, rfl⟩
      refine ⟨some ds, x, rest, fun _ h => Option.some.inj h ▸ hds, hx, ?_, hstop, hnone,
        fun h => absurd h (by simp), hP, ?_⟩
      · rw [hrem, htext]
        simp [NumberToken.fractionText]
      · simp [NumberToken.fractionText]
        omega
    · rintro ⟨frac, x, rest, hfrac, hx, htext, hstop, hnone, hpoint, hP, rfl⟩
      obtain ⟨ds, rfl⟩ := Option.isSome_iff_exists.1
        ((peek_tailText hx hpoint hnone (htext ▸ hc0)).1.1 hp)
      refine ⟨ds, x, rest, hfrac ds rfl, hx, ?_, hnone, hstop, hP, ?_⟩
      · rw [hrem] at htext
        simpa [NumberToken.fractionText] using htext
      · simp [NumberToken.fractionText]
        omega
  · by_cases hl : c0 = 'e' ∨ c0 = 'E'
    · rw [hexponent hl]
      constructor
      · rintro ⟨y, rest, hsign, hdigits, htext, hstop, hP, rfl⟩
        -- the exponent starts with the letter the reader peeked at
        have hy : y.letter = c0 := by
          rw [htext] at hc0
          simpa [Exponent.text] using hc0
        refine ⟨none, some y, rest, by simp, fun _ h => Option.some.inj h ▸
          ⟨hy ▸ hl, hsign, hdigits⟩, by simpa [NumberToken.fractionText,
          NumberToken.exponentText] using htext, hstop, fun h => absurd h (by simp),
          fun _ h => absurd h (by simp), hP, by simp [NumberToken.fractionText,
          NumberToken.exponentText]⟩
      · rintro ⟨frac, x, rest, hfrac, hx, htext, hstop, hnone, hpoint, hP, rfl⟩
        obtain ⟨rfl, hxs⟩ := (peek_tailText hx hpoint hnone (htext ▸ hc0)).2.1 hl
        obtain ⟨y, rfl⟩ := Option.isSome_iff_exists.1 hxs
        have hy := hx y rfl
        exact ⟨y, rest, hy.sign, hy.digits, by simpa [NumberToken.fractionText,
          NumberToken.exponentText] using htext, hstop, hP, by simp [NumberToken.fractionText,
          NumberToken.exponentText]⟩
    · rw [hend hp hl]
      have hnotPoint : ∀ c ∈ (rem t k).head?, c ≠ '.' := by
        intro c hc h
        rw [Option.mem_def.1 hc, Option.getD_some] at hc0
        exact hp (hc0 ▸ h)
      have hnotLetter : ∀ c ∈ (rem t k).head?, c ≠ 'e' ∧ c ≠ 'E' := by
        intro c hc
        rw [Option.mem_def.1 hc, Option.getD_some] at hc0
        subst hc0
        exact not_or.1 hl
      constructor
      · rintro ⟨hP, hj⟩
        exact ⟨none, none, rem t k, by simp, by simp, by simp [NumberToken.fractionText,
          NumberToken.exponentText], hk, fun _ => hnotLetter, fun _ _ => hnotPoint, hP,
          by simp [hj, NumberToken.fractionText, NumberToken.exponentText]⟩
      · rintro ⟨frac, x, rest, hfrac, hx, htext, hstop, hnone, hpoint, hP, rfl⟩
        have hh := peek_tailText hx hpoint hnone (htext ▸ hc0)
        have hfn : frac = none := by
          cases frac with
          | none => rfl
          | some _ => exact absurd (hh.1.2 rfl) hp
        subst hfn
        have hxn : x = none := by
          cases x with
          | none => rfl
          | some _ => exact absurd (hh.2.2 ⟨rfl, rfl⟩) hl
        subst hxn
        exact ⟨hP, by simp [NumberToken.fractionText, NumberToken.exponentText]⟩


theorem value_of_fraction {b : Bool} {ds fs : List Char} {x : Option Exponent} {sig : Nat}
    {long : List Char} (htake : takeDigits u64Max 0 ds = (sig, long)) :
    NumberToken.value ⟨b, ds, some fs, x⟩ = fractionValue (!b) sig long.length fs x := by
  simp [NumberToken.value, htake]

theorem value_of_exponent {b : Bool} {ds : List Char} {y : Exponent} {sig : Nat}
    {long : List Char} (htake : takeDigits u64Max 0 ds = (sig, long)) :
    NumberToken.value ⟨b, ds, none, some y⟩ = withExponent (!b) sig long.length (some y) := by
  cases long <;> simp [NumberToken.value, htake]

/-- What follows integer digits that fit 64 bits: a fraction, an exponent, or the end of an
integer. -/
theorem ok_parseNumber {t : ByteArray} {positive : Bool} {sig k j : Nat} {v : Number}
    {ds : List Char} (htake : takeDigits u64Max 0 ds = (sig, []))
    (hk : ∀ c ∈ (rem t k).head?, isDigit c = false) :
    Ok (parseNumber t positive sig) k v j ↔
      ∃ (frac : Option (List Char)) (x : Option Exponent) (rest : List Char),
        (∀ ds ∈ frac, IsDigits ds) ∧ (∀ y ∈ x, y.Wellformed) ∧
        rem t k = NumberToken.fractionText frac ++ NumberToken.exponentText x ++ rest ∧
        (∀ c ∈ rest.head?, isDigit c = false) ∧
        (x = none → ∀ c ∈ rest.head?, c ≠ 'e' ∧ c ≠ 'E') ∧
        (frac = none → x = none → ∀ c ∈ rest.head?, c ≠ '.') ∧
        NumberToken.value ⟨!positive, ds, frac, x⟩ = some v ∧
        j = k + (NumberToken.fractionText frac ++ NumberToken.exponentText x).length := by
  unfold parseNumber
  rw [ok_bind_of_run (run_peekOrNul t k)]
  refine ok_numberTail (fun frac x => NumberToken.value ⟨!positive, ds, frac, x⟩ = some v) hk rfl (fun hc => ?_) (fun hc => ?_) (fun hp hl => ?_)
  · rw [hc]
    simp only [ok_parseDecimal, value_of_fraction htake, Bool.not_not, List.length_nil,
      Nat.cast_zero]
  · rcases hc with hc | hc <;> rw [hc] <;>
      simp only [ok_parseExponent, value_of_exponent htake, Bool.not_not, List.length_nil,
        Nat.cast_zero]
  · split
    · next hc => exact absurd hc hp
    · next hc => exact absurd (.inl hc) hl
    · next hc => exact absurd (.inr hc) hl
    · rw [ok_pure]
      simp [NumberToken.value, htake, eq_comm]


/-- What follows the integer digits of a number once those past 64 bits have all been read: a
fraction, an exponent, or the end of a float. -/
theorem ok_parseLongInteger_end {t : ByteArray} {positive : Bool} {sig k j : Nat} {v : Number}
    {ds long : List Char} (htake : takeDigits u64Max 0 ds = (sig, long)) (hlong : long ≠ [])
    (hk : ∀ c ∈ (rem t k).head?, isDigit c = false) :
    Ok (parseLongInteger t positive sig long.length 1) k v j ↔
      ∃ (frac : Option (List Char)) (x : Option Exponent) (rest : List Char),
        (∀ ds ∈ frac, IsDigits ds) ∧ (∀ y ∈ x, y.Wellformed) ∧
        rem t k = NumberToken.fractionText frac ++ NumberToken.exponentText x ++ rest ∧
        (∀ c ∈ rest.head?, isDigit c = false) ∧
        (x = none → ∀ c ∈ rest.head?, c ≠ 'e' ∧ c ≠ 'E') ∧
        (frac = none → x = none → ∀ c ∈ rest.head?, c ≠ '.') ∧
        NumberToken.value ⟨!positive, ds, frac, x⟩ = some v ∧
        j = k + (NumberToken.fractionText frac ++ NumberToken.exponentText x).length := by
  rw [parseLongInteger, ok_bind_of_run (run_peekOrNul t k)]
  refine ok_numberTail (fun frac x => NumberToken.value ⟨!positive, ds, frac, x⟩ = some v) hk rfl (fun hc => ?_) (fun hc => ?_) (fun hp hl => ?_)
  · rw [hc]
    simp only [ok_parseDecimal, value_of_fraction htake, Bool.not_not]
  · rcases hc with hc | hc <;> rw [hc] <;>
      simp only [ok_parseExponent, value_of_exponent htake, Bool.not_not]
  · have hdigit : isDigit ((rem t k).head?.getD '\x00') = false := by
      cases h : (rem t k).head? with
      | none => exact isDigit_nul
      | some c => exact hk c h
    obtain ⟨l0, ls, rfl⟩ := List.exists_cons_of_ne_nil hlong
    split
    · next hc => exact absurd hc hp
    · next hc => exact absurd (.inl hc) hl
    · next hc => exact absurd (.inr hc) hl
    · simp only [hdigit, Bool.false_eq_true, if_false, ok_floatFromParts]
      simp [NumberToken.value, htake, withExponent]


/-- Two steps whose runs agree succeed alike. -/
theorem ok_congr_run {α : Type} {x y : Scan α} {i i' j : Nat} {a : α}
    (h : x.run.run i = y.run.run i') : Ok x i a j ↔ Ok y i' a j := by
  unfold Ok
  rw [h]

/-- What follows the integer digits of a number starts with no digit. -/
theorem noDigit_tailText {frac : Option (List Char)} {x : Option Exponent} {rest : List Char}
    (hx : ∀ y ∈ x, y.Wellformed) (hstop : ∀ c ∈ rest.head?, isDigit c = false) :
    ∀ c ∈ (NumberToken.fractionText frac ++ NumberToken.exponentText x ++ rest).head?,
      isDigit c = false := by
  cases frac with
  | none => simpa [NumberToken.fractionText] using noDigit_exponentText hx hstop
  | some ds =>
    intro c hc
    simp only [NumberToken.fractionText, List.cons_append, List.head?_cons, Option.mem_def,
      Option.some.injEq] at hc
    subst hc
    decide

/-- A number written at the cursor, up to where a reader stops, is the digits at the cursor
followed by a fraction and an exponent as written. -/
theorem exists_token_iff {t : ByteArray} {i j : Nat} {b : Bool} {D : List Char}
    {Q : NumberToken → Prop} (hD : (rem t i).takeWhile isDigit = D) :
    (∃ (n : NumberToken) (rest : List Char), n.negative = b ∧ n.Wellformed ∧
        rem t i = n.body ++ rest ∧ n.Ends rest ∧ Q n ∧ j = i + n.body.length) ↔
      IsDigits D ∧ (∀ ds, D = '0' :: ds → ds = []) ∧
      ∃ (frac : Option (List Char)) (x : Option Exponent) (rest : List Char),
        (∀ ds ∈ frac, IsDigits ds) ∧ (∀ y ∈ x, y.Wellformed) ∧
        rem t (i + D.length) = NumberToken.fractionText frac ++ NumberToken.exponentText x ++ rest ∧
        (∀ c ∈ rest.head?, isDigit c = false) ∧
        (x = none → ∀ c ∈ rest.head?, c ≠ 'e' ∧ c ≠ 'E') ∧
        (frac = none → x = none → ∀ c ∈ rest.head?, c ≠ '.') ∧ Q ⟨b, D, frac, x⟩ ∧
        j = i + D.length + (NumberToken.fractionText frac ++ NumberToken.exponentText x).length := by
  constructor
  · rintro ⟨⟨neg, integer, frac, x⟩, rest, rfl, hwf, htext, hends, hQ, rfl⟩
    have htext' : rem t i = integer ++
        (NumberToken.fractionText frac ++ NumberToken.exponentText x ++ rest) := by
      simpa [NumberToken.body, List.append_assoc] using htext
    -- the integer digits are all the digits at the cursor
    have hint : D = integer := by
      rw [← hD, htext']
      exact takeWhile_digits hwf.integer.2 (noDigit_tailText hwf.exponent hends.digit)
    subst hint
    refine ⟨hwf.integer, hwf.leading, frac, x, rest, hwf.fraction, hwf.exponent, rem_add htext',
      hends.digit, hends.letter, hends.point, hQ, ?_⟩
    simp [NumberToken.body]
    omega
  · rintro ⟨hdig, hlead, frac, x, rest, hfrac, hx, htext, hstop, hnone, hpoint, hQ, rfl⟩
    have hsplit : rem t i = D ++ rem t (i + D.length) := by
      rw [← hD]
      exact (digitsAt t i).2.1
    refine ⟨⟨b, D, frac, x⟩, rest, rfl, ⟨hdig, hlead, hfrac, hx⟩, ?_, ⟨hstop, hnone, hpoint⟩,
      hQ, ?_⟩
    · rw [hsplit, htext]
      simp [NumberToken.body]
    · simp [NumberToken.body]
      omega


theorem takeDigits_zero_cons {c : Char} (cs : List Char) :
    takeDigits u64Max 0 (c :: cs) = takeDigits u64Max (digitValue c) cs := by
  have h : overflows 0 (digitValue c) u64Max = false := by
    simp [overflows, u64Max]
  simp [takeDigits, h]

/-- A zero followed by a digit breaks the rule that a zero starts no longer integer part. -/
theorem not_leadingZero {r : List Char} (hd : isDigit (r.head?.getD '\x00') = true) :
    ¬ ∀ ds, ('0' :: r).takeWhile isDigit = '0' :: ds → ds = [] := by
  intro hlead
  cases r with
  | nil => exact absurd hd (by simp [isDigit_nul])
  | cons d r' =>
    simp only [List.head?_cons, Option.getD_some] at hd
    have h0 := hlead _ (List.takeWhile_cons_of_pos (by decide))
    rw [List.takeWhile_cons_of_pos hd] at h0
    exact absurd h0 (List.cons_ne_nil _ _)

/-- A zero followed by no digit is an integer part alone. -/
theorem zero_alone {r : List Char} (hd : ¬ isDigit (r.head?.getD '\x00') = true) :
    (∀ c ∈ r.head?, isDigit c = false) ∧ ('0' :: r).takeWhile isDigit = ['0'] := by
  cases r with
  | nil => exact ⟨by simp, rfl⟩
  | cons d r' =>
    simp only [List.head?_cons, Option.getD_some] at hd
    refine ⟨fun c hc => ?_, ?_⟩
    · obtain rfl := Option.some.inj (Option.mem_def.1 hc)
      simpa using hd
    rw [List.takeWhile_cons_of_pos (by decide), List.takeWhile_cons_of_neg (by simpa using hd)]

/-- The digits at the cursor after a first digit `c`: they fit the text, make a run of digits
with `c`, and no digit follows them. -/
theorem digitRun {t : ByteArray} {i : Nat} {c : Char} {r : List Char} (h : rem t i = c :: r)
    (hd : isDigit c = true) :
    (r.takeWhile isDigit).length < t.size ∧ IsDigits (c :: r.takeWhile isDigit) ∧
      rem t (i + 1) = r.takeWhile isDigit ++ r.dropWhile isDigit ∧
      ∀ d ∈ (rem t (i + 1 + (r.takeWhile isDigit).length)).head?, isDigit d = false := by
  have hr : rem t (i + 1) = r := rem_succ h
  have hrun : rem t (i + 1) = r.takeWhile isDigit ++ r.dropWhile isDigit := by
    rw [hr]
    exact List.takeWhile_append_dropWhile.symm
  refine ⟨?_, ⟨List.cons_ne_nil _ _, fun d hd' => ?_⟩, hrun, ?_⟩
  · have h1 := length_rem_le t i
    have h2 := (List.takeWhile_prefix isDigit (l := r)).length_le
    rw [h] at h1
    simp at h1
    omega
  · rcases List.mem_cons.1 hd' with rfl | hmem
    · exact hd
    · exact List.mem_takeWhile_imp hmem
  · rw [rem_add hrun]
    exact noDigit_dropWhile r

/-- A text that starts with no digit starts with no integer part. -/
theorem not_isDigits_takeWhile {c : Char} {r : List Char} (hd : ¬ isDigit c = true) :
    ¬ IsDigits ((c :: r).takeWhile isDigit) := by
  rw [List.takeWhile_cons_of_neg (by simpa using hd)]
  exact fun hdig => hdig.1 rfl

/-- A number after its sign: a number as written whose integer digits are all the digits at the
cursor, with no leading zero, read up to where the text cannot go on with it, and its value. -/
theorem ok_parseInteger {t : ByteArray} {positive : Bool} {i j : Nat} {v : Number} :
    Ok (parseInteger t positive) i v j ↔
      ∃ (n : NumberToken) (rest : List Char), n.negative = !positive ∧ n.Wellformed ∧
        rem t i = n.body ++ rest ∧ n.Ends rest ∧ n.value = some v ∧ j = i + n.body.length := by
  rw [exists_token_iff rfl]
  unfold parseInteger
  rw [ok_bind_of_run (run_next t i)]
  cases h : rem t i with
  | nil =>
    simp [IsDigits]
  | cons c r =>
    simp only [List.head?_cons, Option.isSome_some, if_true]
    have hr : rem t (i + 1) = r := rem_succ h
    split
    · next heq => simp at heq
    · next heq =>
      -- a leading zero: the number goes on only with a fraction or an exponent
      obtain rfl : c = '0' := Option.some.inj heq
      rw [ok_bind_of_run (run_peekOrNul t (i + 1)), hr]
      by_cases hd : isDigit (r.head?.getD '\x00') = true
      · rw [if_pos hd]
        simp only [not_ok_failPeeked, false_iff, not_and]
        exact fun _ hlead => absurd hlead (not_leadingZero hd)
      · rw [if_neg hd]
        obtain ⟨hk, hzero⟩ := zero_alone hd
        rw [← hr] at hk
        rw [ok_parseNumber (show takeDigits u64Max 0 ['0'] = (0, []) by decide) hk, hzero]
        simp only [List.length_singleton]
        constructor
        · intro hrest
          exact ⟨⟨List.cons_ne_nil _ _, fun c hc => by rw [List.mem_singleton.1 hc]; decide⟩,
            fun _ h => (List.cons.inj h).2.symm, hrest⟩
        · exact fun h => h.2.2
    · next c' hne h0 =>
      obtain rfl : c = c' := Option.some.inj h0
      by_cases hd : isDigit c = true
      · rw [if_pos hd, List.takeWhile_cons_of_pos hd]
        obtain ⟨hfuel, hdigits, h1, hk⟩ := digitRun h hd
        obtain ⟨ds, hds⟩ : ∃ ds, r.takeWhile isDigit = ds := ⟨_, rfl⟩
        rw [hds] at hfuel hdigits h1 hk ⊢
        have hlead : ∀ ds', c :: ds = '0' :: ds' → ds' = [] :=
          fun _ h' => absurd (List.cons.inj h').1 hne
        rcases htake : takeDigits u64Max (digitValue c) ds with ⟨sig, left⟩
        have htake' : takeDigits u64Max 0 (c :: ds) = (sig, left) := by
          rw [takeDigits_zero_cons, htake]
        have hrun : (integerDigits t positive (digitValue c) t.size).run.run (i + 1) = _ :=
          run_integerDigits (hr ▸ hds) hfuel.le htake
        have hpos : i + (c :: ds).length = i + 1 + ds.length := by simp; omega
        rw [hpos]
        cases left with
        | nil =>
          rw [if_pos rfl] at hrun
          rw [ok_congr_run hrun, ok_parseNumber htake' hk]
          exact ⟨fun h => ⟨hdigits, hlead, h⟩, fun h => h.2.2⟩
        | cons l0 ls =>
          rw [if_neg (List.cons_ne_nil _ _)] at hrun
          -- the digits past 64 bits are the rest of the digits at the cursor
          have hsuf : l0 :: ls <:+ ds := by
            have := takeDigits_suffix u64Max (digitValue c) ds
            rwa [htake] at this
          have hlong : (parseLongInteger t positive sig 0 t.size).run.run
              (i + 1 + (ds.length - (l0 :: ls).length)) =
              (parseLongInteger t positive sig (0 + (l0 :: ls).length) 1).run.run
                (i + 1 + (ds.length - (l0 :: ls).length) + (l0 :: ls).length) :=
            run_parseLongInteger (takeWhile_rem_of_suffix (hr ▸ hds) hsuf)
              (by have := hsuf.length_le; omega)
          have hend : i + 1 + (ds.length - (l0 :: ls).length) + (l0 :: ls).length =
              i + 1 + ds.length := by
            have := hsuf.length_le
            omega
          rw [ok_congr_run hrun, ok_congr_run hlong, hend, Nat.zero_add,
            ok_parseLongInteger_end htake' (List.cons_ne_nil _ _) hk]
          exact ⟨fun h => ⟨hdigits, hlead, h⟩, fun h => h.2.2⟩
      · rw [if_neg hd]
        simp only [not_ok_failHere, false_iff, not_and]
        exact fun hdig => absurd hdig (not_isDigits_takeWhile hd)


/-- What follows the integer digits of a number that is skipped: a fraction, an exponent, or
nothing. -/
theorem ok_ignoreNumberRest {t : ByteArray} {k j : Nat} {u : Unit}
    (hk : ∀ c ∈ (rem t k).head?, isDigit c = false) :
    Ok (ignoreNumberRest t) k u j ↔
      ∃ (frac : Option (List Char)) (x : Option Exponent) (rest : List Char),
        (∀ ds ∈ frac, IsDigits ds) ∧ (∀ y ∈ x, y.Wellformed) ∧
        rem t k = NumberToken.fractionText frac ++ NumberToken.exponentText x ++ rest ∧
        (∀ c ∈ rest.head?, isDigit c = false) ∧
        (x = none → ∀ c ∈ rest.head?, c ≠ 'e' ∧ c ≠ 'E') ∧
        (frac = none → x = none → ∀ c ∈ rest.head?, c ≠ '.') ∧
        j = k + (NumberToken.fractionText frac ++ NumberToken.exponentText x).length := by
  unfold ignoreNumberRest
  rw [ok_bind_of_run (run_peekOrNul t k)]
  refine (ok_numberTail (fun _ _ => True) hk rfl
    (fun hc => by rw [hc]; simp only [ok_ignoreDecimal, true_and])
    (fun hc => by rcases hc with hc | hc <;> rw [hc] <;> simp only [ok_ignoreExponent, true_and])
    (fun hp hl => ?_)).trans (by simp only [true_and])
  split
  · next hc => exact absurd hc hp
  · next hc => exact absurd (.inl hc) hl
  · next hc => exact absurd (.inr hc) hl
  · simp


/-- A number that is skipped, its sign already read: a number as written whose integer digits
are all the digits at the cursor, with no leading zero, read up to where the text cannot go on
with it. -/
theorem ok_ignoreInteger {t : ByteArray} {i j : Nat} {u : Unit} :
    Ok (ignoreInteger t) i u j ↔
      ∃ (n : NumberToken) (rest : List Char), n.Wellformed ∧ rem t i = n.body ++ rest ∧
        n.Ends rest ∧ j = i + n.body.length := by
  -- the sign plays no part in a number's form after it
  have hsign : (∃ (n : NumberToken) (rest : List Char), n.Wellformed ∧ rem t i = n.body ++ rest ∧
        n.Ends rest ∧ j = i + n.body.length) ↔
      ∃ (n : NumberToken) (rest : List Char), n.negative = false ∧ n.Wellformed ∧
        rem t i = n.body ++ rest ∧ n.Ends rest ∧ True ∧ j = i + n.body.length := by
    constructor
    · rintro ⟨⟨neg, integer, frac, x⟩, rest, hwf, htext, hends, hj⟩
      exact ⟨⟨false, integer, frac, x⟩, rest, rfl, ⟨hwf.1, hwf.2, hwf.3, hwf.4⟩, htext,
        ⟨hends.1, hends.2, hends.3⟩, trivial, hj⟩
    · rintro ⟨n, rest, -, hwf, htext, hends, -, hj⟩
      exact ⟨n, rest, hwf, htext, hends, hj⟩
  rw [hsign, exists_token_iff rfl]
  simp only [true_and]
  unfold ignoreInteger
  rw [ok_bind_of_run (run_next t i)]
  cases h : rem t i with
  | nil =>
    simp [IsDigits, isDigit_nul]
  | cons c r =>
    simp only [List.head?_cons, Option.isSome_some, if_true, Option.getD_some]
    have hr : rem t (i + 1) = r := rem_succ h
    split
    · -- a leading zero: the number goes on only with a fraction or an exponent
      rw [ok_bind_of_run (run_peekOrNul t (i + 1)), hr]
      by_cases hd : isDigit (r.head?.getD '\x00') = true
      · rw [if_pos hd]
        simp only [not_ok_failPeeked, false_iff, not_and]
        exact fun _ hlead => absurd hlead (not_leadingZero hd)
      · rw [if_neg hd]
        obtain ⟨hk, hzero⟩ := zero_alone hd
        rw [← hr] at hk
        rw [ok_ignoreNumberRest hk, hzero]
        simp only [List.length_singleton]
        constructor
        · intro hrest
          exact ⟨⟨List.cons_ne_nil _ _, fun c hc => by rw [List.mem_singleton.1 hc]; decide⟩,
            fun _ h => (List.cons.inj h).2.symm, hrest⟩
        · exact fun h => h.2.2
    · next hne =>
      by_cases hd : isDigit c = true
      · rw [if_pos hd, List.takeWhile_cons_of_pos hd]
        obtain ⟨hfuel, hdigits, h1, hk⟩ := digitRun h hd
        obtain ⟨ds, hds⟩ : ∃ ds, r.takeWhile isDigit = ds := ⟨_, rfl⟩
        rw [hds] at hfuel hdigits h1 hk ⊢
        have hskip : (skipDigits t t.size).run.run (i + 1) = (.ok (), i + 1 + ds.length) := by
          rw [run_skipDigits, hr, hds, Nat.min_eq_right hfuel.le]
        have hpos : i + (c :: ds).length = i + 1 + ds.length := by simp; omega
        rw [ok_bind_of_run hskip, ok_ignoreNumberRest hk, hpos]
        constructor
        · exact fun hrest => ⟨hdigits, fun _ h' => absurd (List.cons.inj h').1 hne, hrest⟩
        · exact fun h => h.2.2
      · rw [if_neg hd]
        simp only [not_ok_failHere, false_iff, not_and]
        exact fun hdig => absurd hdig (not_isDigits_takeWhile hd)

end WriteAccess.Json.Reader
