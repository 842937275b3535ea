import Mathlib
import WriteAccess.Proofs.UrlWriting

/-!
# IPv6 addresses read back from their text

The writer puts an address of eight pieces in lower-case hex, with its first longest run of two
or more zero pieces as `::` (`ipv6Text`); the reader takes the pieces one by one into eight
registers and moves the block read after a `::` to the end (`parseIpv6`).

Two facts make the pair a round trip. What the reader gives is eight pieces of sixteen bits
(`parseIpv6_sound`): its registers stay sound from piece to piece (`Ipv6State.Sound`), and
through a dotted tail, where every two bytes fill one piece (`Ipv6State.TailSound`). Such pieces,
written out, are read back as themselves (`parseIpv6_ipv6Text`): the text is the hex groups of
the pieces before the run, `::`, and the groups after it (`longestZeroRun_run`); the reader
takes the groups one by one (`readIpv6Pieces_groups`), and its moves put the block after the
`::` behind the zeros (`spreadPieces_block`).

In brackets the text is also read back whole when it stands in an authority
(`Host.Readable.ipv6`): inside the brackets a colon does not end the host.
-/

namespace WriteAccess.Url

/-! ## Hex pieces -/

/-- A hex digit the writer puts down is read as its value. -/
theorem hexValue?_digitChar {d : Nat} (hd : d < 16) : hexValue? (Nat.digitChar d) = some d := by
  interval_cases d <;> rfl

/-- A hex digit is worth less than sixteen. -/
theorem hexValue?_lt {c : Char} {d : Nat} (h : hexValue? c = some d) : d < 16 := by
  unfold hexValue? at h
  have hle : ∀ a b : Char, a ≤ b → a.toNat ≤ b.toNat := fun a b hab => by
    simpa [Char.le_def, UInt32.le_iff_toNat_le] using hab
  split_ifs at h with h1 h2 h3
  · cases h
    have := hle _ _ h1.2
    simp at this
    omega
  · cases h
    have := hle _ _ h2.2
    have := hle _ _ h2.1
    simp at *
    omega
  · cases h
    have := hle _ _ h3.2
    have := hle _ _ h3.1
    simp at *
    omega

/-- The hex digits of a number are digits below sixteen. -/
theorem mem_toDigits_hex {v : Nat} {c : Char} (h : c ∈ Nat.toDigits 16 v) :
    ∃ d < 16, c = Nat.digitChar d := by
  induction v using Nat.strong_induction_on with
  | _ v ih =>
    rw [Nat.toDigits_eq_if (by decide)] at h
    split at h
    · exact ⟨v, ‹_›, List.mem_singleton.1 h⟩
    · rcases List.mem_append.1 h with h | h
      · exact ih (v / 16) (by omega) h
      · exact ⟨v % 16, Nat.mod_lt _ (by decide), List.mem_singleton.1 h⟩

/-- The hex digits of a number start with a digit, not with a colon. -/
theorem toDigits_hex_eq_cons (v : Nat) :
    ∃ c cs, Nat.toDigits 16 v = c :: cs ∧ c ≠ ':' := by
  obtain ⟨c, cs, h⟩ := List.exists_cons_of_ne_nil (Nat.toDigits_ne_nil (b := 16) (n := v))
  obtain ⟨d, hd, rfl⟩ := mem_toDigits_hex (h ▸ List.mem_cons_self)
  refine ⟨_, cs, h, fun heq => ?_⟩
  interval_cases d <;> simp at heq

/-- The value of hex digits read one after another onto a value. -/
def hexDigitsValue (value : Nat) (ds : List Char) : Nat :=
  ds.foldl (fun acc c => acc * 16 + (hexValue? c).getD 0) value

/-- The piece reader takes hex digits, up to its count, and stops at the first character that is
not one. -/
theorem readHexPiece_digits {rest : List Char} (hrest : ∀ c ∈ rest.head?, hexValue? c = none) :
    ∀ (ds : List Char) (count value read : Nat), (∀ c ∈ ds, (hexValue? c).isSome) →
      ds.length ≤ count →
      readHexPiece count value read (ds ++ rest) = (hexDigitsValue value ds, read + ds.length, rest)
  | [], 0, value, read, _, _ => rfl
  | [], count + 1, value, read, _, _ => by
    cases rest with
    | nil => rfl
    | cons c more => simp [readHexPiece, hrest c rfl, hexDigitsValue]
  | c :: ds, count + 1, value, read, hds, hlen => by
    obtain ⟨d, hd⟩ := Option.isSome_iff_exists.1 (hds c List.mem_cons_self)
    rw [List.cons_append, readHexPiece, hd]
    simp only
    rw [readHexPiece_digits hrest ds count _ _ (fun x hx => hds x (List.mem_cons_of_mem c hx))
      (by simpa using hlen)]
    simp [hexDigitsValue, hd, Nat.add_assoc, Nat.add_comm 1]

/-- The hex digits of a number are worth the number. -/
theorem hexDigitsValue_toDigits (v : Nat) : hexDigitsValue 0 (Nat.toDigits 16 v) = v := by
  induction v using Nat.strong_induction_on with
  | _ v ih =>
    rw [Nat.toDigits_eq_if (by decide)]
    split
    · simp [hexDigitsValue, hexValue?_digitChar ‹_›]
    · have hmod : v % 16 < 16 := Nat.mod_lt _ (by decide)
      have hdiv := ih (v / 16) (by omega)
      simp only [hexDigitsValue, List.foldl_append] at hdiv ⊢
      simp [hdiv, hexValue?_digitChar hmod]
      omega

/-- A piece of sixteen bits is read back from its hex digits, up to the colon or the end after
them. -/
theorem readHexPiece_toDigits {v : Nat} (hv : v < 0x10000) {rest : List Char}
    (hrest : ∀ c ∈ rest.head?, c = ':') :
    readHexPiece 4 0 0 (Nat.toDigits 16 v ++ rest) = (v, (Nat.toDigits 16 v).length, rest) := by
  have hlen : (Nat.toDigits 16 v).length ≤ 4 :=
    (Nat.length_toDigits_le_iff (by decide) (by decide)).2 hv
  have hhex : ∀ c ∈ Nat.toDigits 16 v, (hexValue? c).isSome := fun c hc => by
    obtain ⟨d, hd, rfl⟩ := mem_toDigits_hex hc
    simp [hexValue?_digitChar hd]
  rw [readHexPiece_digits (fun c hc => by rw [hrest c hc]; rfl) _ 4 0 0 hhex hlen,
    hexDigitsValue_toDigits, Nat.zero_add]

theorem lt_succ_mul_pow (value k : Nat) : value < (value + 1) * 16 ^ k :=
  Nat.lt_of_lt_of_le (Nat.lt_succ_self value) (Nat.le_mul_of_pos_right _ (Nat.pow_pos (by decide)))

/-- At most `count` hex digits read onto a value stay below the value shifted by `count` digits. -/
theorem readHexPiece_lt : ∀ (count value read : Nat) (cs : List Char),
    (readHexPiece count value read cs).1 < (value + 1) * 16 ^ count
  | 0, value, read, cs => by simp [readHexPiece]
  | count + 1, value, read, [] => lt_succ_mul_pow value (count + 1)
  | count + 1, value, read, c :: rest => by
    rw [readHexPiece]
    cases hc : hexValue? c with
    | none => exact lt_succ_mul_pow value (count + 1)
    | some d =>
      have hd := hexValue?_lt hc
      have ih := readHexPiece_lt count (value * 16 + d) (read + 1) rest
      simp only
      calc _ < (value * 16 + d + 1) * 16 ^ count := ih
        _ ≤ (value + 1) * 16 * 16 ^ count := Nat.mul_le_mul_right _ (by omega)
        _ = (value + 1) * 16 ^ (count + 1) := by rw [Nat.pow_succ]; ring

/-! ## What the reader gives -/

/-- The code of a decimal digit. -/
theorem toNat_of_isDigit {c : Char} (h : c.isDigit = true) : 48 ≤ c.toNat ∧ c.toNat ≤ 57 := by
  simp only [Char.isDigit, Bool.and_eq_true, decide_eq_true_eq, UInt32.le_iff_toNat_le] at h
  exact ⟨by simpa using h.1, by simpa using h.2⟩

/-- A part of a dotted tail is a byte. -/
theorem readIpv4Piece_le : ∀ {acc : Option Nat} {cs : List Char} {v : Nat} {after : List Char},
    (∀ a ∈ acc, a ≤ 255) → readIpv4Piece acc cs = .ok (v, after) → v ≤ 255
  | acc, c :: rest, v, after, hacc, h => by
    unfold readIpv4Piece at h
    split at h
    · rename_i hdigit
      have hd := toNat_of_isDigit hdigit
      split at h
      · exact readIpv4Piece_le (by simp; omega) h
      · cases h
      · dsimp only at h
        split at h
        · cases h
        · exact readIpv4Piece_le (by simp; omega) h
    · split at h
      · cases h
        exact hacc _ rfl
      · cases h
  | acc, [], v, after, hacc, h => by
    unfold readIpv4Piece at h
    split at h
    · cases h
      exact hacc _ rfl
    · cases h

namespace Ipv6State

/-- The registers of the reader between pieces: eight pieces of sixteen bits, those from the
index on still zero. -/
structure Sound (st : Ipv6State) : Prop where
  length : st.pieces.length = 8
  small : ∀ p ∈ st.pieces, p < 0x10000
  fresh : ∀ j, st.index ≤ j → st.pieces.getD j 0 = 0

/-- The registers of the reader inside a dotted tail with `seen` parts read: as between pieces,
except that the piece at the index holds the first byte of its pair after an odd number of
parts. -/
structure TailSound (seen : Nat) (st : Ipv6State) : Prop where
  seen_le : seen ≤ 4
  length : st.pieces.length = 8
  small : ∀ p ∈ st.pieces, p < 0x10000
  fresh : ∀ j, st.index < j → st.pieces.getD j 0 = 0
  current : st.pieces.getD st.index 0 < if seen % 2 = 1 then 0x100 else 1

theorem getD_set_ne {l : List Nat} {i j : Nat} (h : i ≠ j) (x : Nat) :
    (l.set i x).getD j 0 = l.getD j 0 := by
  simp [List.getD_eq_getElem?_getD, h]

theorem getD_set_self_le (l : List Nat) (i x : Nat) : (l.set i x).getD i 0 ≤ x := by
  by_cases hi : i < l.length
  · simp [List.getD_eq_getElem?_getD, hi]
  · rw [List.set_eq_of_length_le (by omega)]
    simp [List.getD_eq_getElem?_getD, List.getElem?_eq_none (by omega : l.length ≤ i)]

theorem small_set {l : List Nat} (h : ∀ p ∈ l, p < 0x10000) {x : Nat} (hx : x < 0x10000)
    (i : Nat) : ∀ p ∈ l.set i x, p < 0x10000 := fun p hp => by
  rcases List.mem_or_eq_of_mem_set hp with hp | rfl
  · exact h p hp
  · exact hx

/-- The reader starts from eight zero pieces. -/
theorem Sound.zeros (index : Nat) (compress : Option Nat) :
    Sound ⟨List.replicate 8 0, index, compress⟩ where
  length := List.length_replicate
  small p hp := by rw [List.eq_of_mem_replicate hp]; decide
  fresh j _ := by
    simp only [List.getD_eq_getElem?_getD, List.getElem?_replicate]
    split <;> rfl

/-- A piece written and the index moved past it. -/
theorem Sound.put {st : Ipv6State} (h : st.Sound) {v : Nat} (hv : v < 0x10000) :
    Sound { st with pieces := st.pieces.set st.index v, index := st.index + 1 } where
  length := by simp [h.length]
  small := small_set h.small hv _
  fresh j hj := by
    simp only at hj ⊢
    rw [getD_set_ne (by omega)]
    exact h.fresh j (by omega)

/-- The `::`: the index moves past a piece left zero. -/
theorem Sound.skip {st : Ipv6State} (h : st.Sound) :
    Sound { st with index := st.index + 1, compress := some (st.index + 1) } where
  length := h.length
  small := h.small
  fresh j hj := h.fresh j (by simp at hj; omega)

/-- A dotted tail starts with nothing written at the index. -/
theorem Sound.tail {st : Ipv6State} (h : st.Sound) : TailSound 0 st where
  seen_le := by decide
  length := h.length
  small := h.small
  fresh j hj := h.fresh j (by omega)
  current := by
    rw [h.fresh st.index le_rfl]
    decide

/-- A dotted tail of four parts leaves the registers as between pieces. -/
theorem TailSound.sound {st : Ipv6State} (h : TailSound 4 st) : st.Sound where
  length := h.length
  small := h.small
  fresh j hj := by
    rcases Nat.lt_or_eq_of_le hj with hj | rfl
    · exact h.fresh j hj
    · simpa using h.current

/-- One more part of a dotted tail: its byte goes after the one before it in the piece, and
every second part moves the index on. -/
theorem TailSound.step {seen : Nat} {st : Ipv6State} (h : TailSound seen st) (hseen : seen < 4)
    {v : Nat} (hv : v ≤ 255) :
    TailSound (seen + 1)
      (if seen + 1 = 2 || seen + 1 = 4 then
        { st with pieces := st.pieces.set st.index (st.pieces.getD st.index 0 * 0x100 + v),
                  index := st.index + 1 }
      else { st with pieces := st.pieces.set st.index (st.pieces.getD st.index 0 * 0x100 + v) }) := by
  have hcur := h.current
  have hpiece : st.pieces.getD st.index 0 * 0x100 + v < 0x10000 := by
    split at hcur <;> omega
  have hlen : (st.pieces.set st.index (st.pieces.getD st.index 0 * 0x100 + v)).length = 8 := by
    simp [h.length]
  by_cases heven : seen % 2 = 1
  · -- the second byte of a pair: the piece is full and the index moves on
    have hmove : (seen + 1 = 2 || seen + 1 = 4) = true := by simp; omega
    rw [if_pos hmove]
    refine ⟨by omega, hlen, small_set h.small hpiece _, fun j hj => ?_, ?_⟩
    · simp only at hj ⊢
      rw [getD_set_ne (by omega)]
      exact h.fresh j (by omega)
    · simp only
      rw [getD_set_ne (by omega), h.fresh _ (by omega)]
      split <;> omega
  · -- the first byte of a pair: it stays at the index
    have hstay : (seen + 1 = 2 || seen + 1 = 4) = false := by simp; omega
    rw [if_neg (by simp; omega)]
    have hzero : st.pieces.getD st.index 0 = 0 := by simpa [heven] using hcur
    refine ⟨by omega, hlen, small_set h.small hpiece _, fun j hj => ?_, ?_⟩
    · simp only at hj ⊢
      rw [getD_set_ne (by omega)]
      exact h.fresh j hj
    · have hle := getD_set_self_le st.pieces st.index (st.pieces.getD st.index 0 * 0x100 + v)
      rw [hzero] at hle ⊢
      simp only [if_pos (show (seen + 1) % 2 = 1 by omega)]
      omega

/-- A dotted tail read to its end leaves the registers as between pieces. -/
theorem readIpv4Tail_sound : ∀ (fuel seen : Nat) (st : Ipv6State) (cs : List Char) {out : Ipv6State},
    st.TailSound seen → readIpv4Tail fuel seen st cs = .ok out → out.Sound
  | 0, _, _, _, _, _, h => by simp [readIpv4Tail] at h
  | fuel + 1, seen, st, [], out, hst, h => by
    rw [readIpv4Tail] at h
    split at h
    · cases h
      subst seen
      exact hst.sound
    · cases h
  | fuel + 1, seen, st, c :: rest, out, hst, h => by
    rw [readIpv4Tail] at h
    simp only [bind, Except.bind, pure, Except.pure] at h
    -- the separator before every part but the first, then the part, then the rest of the tail
    split at h
    · split at h
      · rename_i hcheck
        have hseen : seen < 4 := by simp at hcheck; omega
        split at h
        · cases h
        · rename_i piece hpiece
          exact readIpv4Tail_sound fuel (seen + 1) _ _
            (hst.step hseen (readIpv4Piece_le (by simp) hpiece)) h
      · cases h
    · split at h
      · cases h
      · rename_i piece hpiece
        exact readIpv4Tail_sound fuel (seen + 1) _ _
          (hst.step (by omega) (readIpv4Piece_le (by simp) hpiece)) h

/-- The reader keeps its registers sound from piece to piece. -/
theorem readIpv6Pieces_sound : ∀ (fuel : Nat) (st : Ipv6State) (cs : List Char) {out : Ipv6State},
    st.Sound → readIpv6Pieces fuel st cs = .ok out → out.Sound
  | 0, _, _, _, _, h => by simp [readIpv6Pieces] at h
  | fuel + 1, st, [], out, hst, h => by
    rw [readIpv6Pieces] at h
    cases h
    exact hst
  | fuel + 1, st, c :: rest, out, hst, h => by
    rw [readIpv6Pieces] at h
    split at h
    · cases h
    split at h
    · -- the `::`
      split at h
      · cases h
      · exact readIpv6Pieces_sound fuel _ rest hst.skip h
    · -- a piece in hex, or the dotted tail
      split at h
      rename_i value read after hread
      have hvalue : value < 0x10000 := by
        have := readHexPiece_lt 4 0 0 (c :: rest)
        rw [hread] at this
        simpa using this
      split at h
      · split at h
        · cases h
        · exact readIpv4Tail_sound _ 0 st _ hst.tail h
      · cases h
      · exact readIpv6Pieces_sound fuel _ _ (hst.put hvalue) h
      · exact readIpv6Pieces_sound fuel _ _ (hst.put hvalue) h
      · cases h

/-- Moving pieces keeps their number and their size. -/
theorem spreadPieces_sound (compress : Nat) : ∀ (swaps index : Nat) (pieces : List Nat),
    pieces.length = 8 → (∀ p ∈ pieces, p < 0x10000) →
      (spreadPieces compress swaps index pieces).length = 8 ∧
        ∀ p ∈ spreadPieces compress swaps index pieces, p < 0x10000
  | 0, _, pieces, hlen, hsmall => ⟨hlen, hsmall⟩
  | swaps + 1, index, pieces, hlen, hsmall => by
    rw [spreadPieces]
    have hget : ∀ i, pieces.getD i 0 < 0x10000 := fun i => by
      rw [List.getD_eq_getElem?_getD]
      cases hi : pieces[i]? with
      | none => simp
      | some p => exact hsmall p (List.mem_of_getElem? hi)
    exact spreadPieces_sound compress swaps (index - 1) _ (by simp [hlen])
      (small_set (small_set hsmall (hget _) _) (hget _) _)

end Ipv6State

/-- What the IPv6 reader gives is eight pieces of sixteen bits. -/
theorem parseIpv6_sound {cs : List Char} {pieces : List Nat} (h : parseIpv6 cs = .ok pieces) :
    pieces.length = 8 ∧ ∀ p ∈ pieces, p < 0x10000 := by
  unfold parseIpv6 at h
  simp only [bind, Except.bind, pure, Except.pure] at h
  split at h
  · cases h
  split at h
  case h_2 => cases h
  -- the text starts with `::` or with a piece; either way the rest is read from eight zero
  -- pieces, the registers at the end are sound, and moving the block after a `::` keeps them so
  all_goals
    split at h
    · cases h
    rename_i st hread
    have hst := Ipv6State.readIpv6Pieces_sound _ _ _ (.zeros _ _) hread
    split at h
    · cases h
      exact Ipv6State.spreadPieces_sound _ _ _ _ hst.length hst.small
    · split at h
      · cases h
        exact ⟨hst.length, hst.small⟩
      · cases h

/-! ## The writer's text read back -/

/-- The pieces of an address as the writer puts them: hex digits with a colon between. -/
def hexGroups (vs : List Nat) : List Char := [':'].intercalate (vs.map (Nat.toDigits 16))

theorem hexGroups_cons_cons (v w : Nat) (ws : List Nat) :
    hexGroups (v :: w :: ws) = Nat.toDigits 16 v ++ ':' :: hexGroups (w :: ws) := by
  simp [hexGroups, List.intercalate_cons_cons]

theorem hexGroups_ne_nil {vs : List Nat} (h : vs ≠ []) : hexGroups vs ≠ [] := by
  obtain ⟨v, ws, rfl⟩ := List.exists_cons_of_ne_nil h
  cases ws with
  | nil => simp [hexGroups, Nat.toDigits_ne_nil]
  | cons w ws => simp [hexGroups_cons_cons]

/-- The text of pieces starts with a hex digit. -/
theorem hexGroups_cons_eq (v : Nat) (vs : List Nat) :
    ∃ c rest, hexGroups (v :: vs) = c :: rest ∧ c ≠ ':' := by
  obtain ⟨c, cs, hdigits, hc⟩ := toDigits_hex_eq_cons v
  cases vs with
  | nil => exact ⟨c, cs, by simp [hexGroups, hdigits], hc⟩
  | cons w ws => exact ⟨c, _, by rw [hexGroups_cons_cons, hdigits, List.cons_append], hc⟩

/-- Every piece takes at least one character of the text. -/
theorem length_le_hexGroups : ∀ vs : List Nat, vs.length ≤ (hexGroups vs).length
  | [] => by simp
  | [v] => by
    simp [hexGroups, Nat.one_le_iff_ne_zero, Nat.toDigits_ne_nil]
  | v :: w :: ws => by
    have := length_le_hexGroups (w :: ws)
    rw [hexGroups_cons_cons]
    simp only [List.length_append, List.length_cons] at this ⊢
    omega

/-- The text of pieces as the writer joins them. -/
theorem toList_intercalate_hex (vs : List Nat) :
    (":".intercalate (vs.map fun p => String.ofList (Nat.toDigits 16 p))).toList = hexGroups vs := by
  simp [String.toList_intercalate, hexGroups, List.map_map, Function.comp_def]

/-- The registers of the reader part way: the pieces read so far, then zeros, the index after
the pieces read. -/
def readerAt (done : List Nat) (m : Nat) (compress : Option Nat) : Ipv6State :=
  ⟨done ++ List.replicate m 0, done.length, compress⟩

/-- One piece read: its hex digits are written into the next piece, and the reader goes on past
the colon after them. -/
theorem readIpv6Pieces_piece {fuel : Nat} {done : List Nat} {m : Nat} {compress : Option Nat}
    (hlen : done.length + (m + 1) = 8) {v : Nat} (hv : v < 0x10000) {after : List Char}
    (hafter : after = [] ∨ ∃ more, after = ':' :: more ∧ more ≠ []) :
    readIpv6Pieces (fuel + 1) (readerAt done (m + 1) compress) (Nat.toDigits 16 v ++ after) =
      readIpv6Pieces fuel (readerAt (done ++ [v]) m compress) (after.drop 1) := by
  obtain ⟨c, cs, hdigits, hcolon⟩ := toDigits_hex_eq_cons v
  have hhead : ∀ c ∈ after.head?, c = ':' := by
    rcases hafter with rfl | ⟨more, rfl, -⟩ <;> simp
  have hread := readHexPiece_toDigits hv hhead
  rw [hdigits, List.cons_append] at hread
  rw [hdigits, List.cons_append, readIpv6Pieces, if_neg (by simp [readerAt]; omega),
    if_neg hcolon]
  simp only [hread]
  rcases hafter with rfl | ⟨more, rfl, hmore⟩
  · simp [readerAt, List.replicate_succ]
  · obtain ⟨x, xs, rfl⟩ := List.exists_cons_of_ne_nil hmore
    simp [readerAt, List.replicate_succ]

/-- Pieces read one after another, each with its colon. -/
theorem readIpv6Pieces_groups {compress : Option Nat} {after : List Char}
    (hafter : after = [] ∨ ∃ more, after = ':' :: more ∧ more ≠ []) :
    ∀ {vs : List Nat} (fuel : Nat) {done : List Nat} {m : Nat}, vs ≠ [] →
      (∀ v ∈ vs, v < 0x10000) → done.length + m = 8 → vs.length ≤ m →
      readIpv6Pieces (fuel + vs.length) (readerAt done m compress) (hexGroups vs ++ after) =
        readIpv6Pieces fuel (readerAt (done ++ vs) (m - vs.length) compress) (after.drop 1)
  | [v], fuel, done, m, _, hvs, hlen, hm => by
    obtain ⟨m, rfl⟩ : ∃ k, m = k + 1 := ⟨m - 1, by simp at hm; omega⟩
    simpa [hexGroups] using @readIpv6Pieces_piece fuel done m compress hlen v (hvs v (by simp)) after
      hafter
  | v :: w :: ws, fuel, done, m, _, hvs, hlen, hm => by
    obtain ⟨m, rfl⟩ : ∃ k, m = k + 1 := ⟨m - 1, by simp at hm; omega⟩
    have hrest := @readIpv6Pieces_groups compress after hafter (w :: ws) fuel (done ++ [v]) m
      (by simp) (fun x hx => hvs x (List.mem_cons_of_mem v hx)) (by simp; omega)
      (by simp at hm ⊢; omega)
    rw [hexGroups_cons_cons, List.append_assoc, List.cons_append,
      show fuel + (v :: w :: ws).length = (fuel + (w :: ws).length) + 1 by simp; omega,
      readIpv6Pieces_piece hlen (hvs v (by simp))
        (.inr ⟨_, rfl, by simp [hexGroups_ne_nil]⟩)]
    simpa using hrest

/-- The `::`: the next piece is left zero and its index is where the block after it starts. -/
theorem readIpv6Pieces_compress {fuel : Nat} {done : List Nat} {m : Nat}
    (hlen : done.length + (m + 1) = 8) (rest : List Char) :
    readIpv6Pieces (fuel + 1) (readerAt done (m + 1) none) (':' :: rest) =
      readIpv6Pieces fuel (readerAt (done ++ [0]) m (some (done.length + 1))) rest := by
  rw [readIpv6Pieces, if_neg (by simp [readerAt]; omega), if_pos rfl]
  simp [readerAt, List.replicate_succ]

/-- A first block of pieces and the `::` after it: the block fills the first pieces, and the
`::` leaves the next one zero and marks where the pieces after it will be moved from. -/
theorem readIpv6Pieces_front {front : List Nat} (hne : front ≠ []) (hlen : front.length < 8)
    (hfront : ∀ v ∈ front, v < 0x10000) (fuel : Nat) (rest : List Char) :
    readIpv6Pieces (fuel + 1 + front.length) (readerAt [] 8 none)
        (hexGroups front ++ ':' :: ':' :: rest) =
      readIpv6Pieces fuel
        (readerAt (front ++ [0]) (8 - (front ++ [0]).length) (some (front ++ [0]).length))
        rest := by
  have hgroups := @readIpv6Pieces_groups none (':' :: ':' :: rest) (.inr ⟨_, rfl, by simp⟩)
    front (fuel + 1) [] 8 hne hfront rfl (by omega)
  rw [hgroups, List.nil_append, List.drop_one, List.tail_cons,
    show 8 - front.length = 7 - front.length + 1 by omega,
    readIpv6Pieces_compress (by omega) rest]
  simp only [List.length_append, List.length_singleton]
  congr 2
  omega

/-- The last pieces, read to the end of the text. -/
theorem readIpv6Pieces_tail {compress : Option Nat} {vs : List Nat} (fuel : Nat) {done : List Nat}
    {m : Nat} (hvs : ∀ v ∈ vs, v < 0x10000) (hlen : done.length + m = 8) (hm : vs.length ≤ m) :
    readIpv6Pieces (fuel + vs.length + 1) (readerAt done m compress) (hexGroups vs) =
      .ok (readerAt (done ++ vs) (m - vs.length) compress) := by
  by_cases hne : vs = []
  · subst hne
    simp [hexGroups, readIpv6Pieces]
  · have hgroups := @readIpv6Pieces_groups compress [] (.inl rfl) vs (fuel + 1) done m hne hvs hlen
      hm
    rw [List.append_nil] at hgroups
    rw [show fuel + vs.length + 1 = fuel + 1 + vs.length by omega, hgroups]
    rfl

/-- The moves touch only the pieces up to the index they start at, so pieces after those are
carried along. -/
theorem spreadPieces_append (compress : Nat) (rest : List Nat) :
    ∀ (swaps index : Nat) (pieces : List Nat), index < pieces.length →
      compress + swaps ≤ pieces.length →
      spreadPieces compress swaps index (pieces ++ rest) =
        spreadPieces compress swaps index pieces ++ rest
  | 0, _, _, _, _ => rfl
  | swaps + 1, index, pieces, hindex, hswaps => by
    have hj : compress + swaps < pieces.length := by omega
    rw [spreadPieces, spreadPieces]
    simp only [List.getD_eq_getElem?_getD, List.getElem?_append_left hindex,
      List.getElem?_append_left hj, List.set_append_left _ _ hindex]
    rw [List.set_append_left _ _ (by simpa using hj)]
    exact spreadPieces_append compress rest swaps (index - 1) _ (by simp; omega) (by simp; omega)

/-- One move of the block: its last piece and the last zero change places. -/
theorem swap_last (L : List Nat) (b z : Nat) :
    ((L ++ b :: List.replicate z 0).set (L.length + z) b).set L.length
        ((L ++ b :: List.replicate z 0).getD (L.length + z) 0) =
      L ++ List.replicate z 0 ++ [b] := by
  cases z with
  | zero => simp [List.set_append_right]
  | succ z =>
    have hlast : (List.replicate (z + 1) 0).set z b = List.replicate z 0 ++ [b] := by
      rw [List.replicate_succ', List.set_append_right _ _ (by simp)]
      simp
    rw [List.getD_append_right _ _ _ _ (by omega), List.set_append_right _ _ (by omega),
      show L.length + (z + 1) - L.length = z + 1 by omega, List.set_cons_succ, hlast,
      List.set_append_right _ _ le_rfl]
    simp [List.replicate_succ, List.getElem_cons]

/-- Moving the pieces after the `::` to the end: the block read after the `::`, followed by the
zeros not read, becomes the zeros followed by the block. -/
theorem spreadPieces_block {before : List Nat} (hbefore : before ≠ []) :
    ∀ (block : List Nat) (zeros : Nat),
      spreadPieces (before.length) block.length (before.length + block.length + zeros - 1)
          (before ++ block ++ List.replicate zeros 0) =
        before ++ List.replicate zeros 0 ++ block := by
  intro block
  induction block using List.reverseRecOn with
  | nil => intro zeros; simp [spreadPieces]
  | append_singleton block b ih =>
    intro zeros
    have hpos : 0 < before.length := List.length_pos_iff.2 hbefore
    have hpieces : before ++ (block ++ [b]) ++ List.replicate zeros 0 =
        (before ++ block) ++ b :: List.replicate zeros 0 := by simp
    have hb : ((before ++ block) ++ b :: List.replicate zeros 0).getD (before ++ block).length 0 =
        b := by simp
    -- the first move puts the block's last piece at the end, then the rest are moved as before
    have hmove := swap_last (before ++ block) b zeros
    rw [List.length_append, List.length_singleton, spreadPieces, hpieces,
      show before.length + (block.length + 1) + zeros - 1 = (before ++ block).length + zeros by
        simp; omega,
      show before.length + block.length = (before ++ block).length by simp, hb, hmove,
      spreadPieces_append _ _ _ _ _ (by simp; omega) (by simp), List.length_append, ih]
    simp

/-- After the `::`: the block after it is read to the end and moved behind the zeros. -/
theorem readIpv6Pieces_after_compress {before block : List Nat} (hbefore : before ≠ [])
    (hlen : before.length + block.length ≤ 8) (hsmall : ∀ v ∈ block, v < 0x10000) (fuel : Nat) :
    ∃ st, readIpv6Pieces (fuel + block.length + 1)
        (readerAt before (8 - before.length) (some before.length)) (hexGroups block) = .ok st ∧
      st.compress = some before.length ∧
      spreadPieces before.length (st.index - before.length) 7 st.pieces =
        before ++ List.replicate (8 - before.length - block.length) 0 ++ block := by
  refine ⟨_, readIpv6Pieces_tail fuel hsmall (by omega) (by omega), rfl, ?_⟩
  have hindex : 7 = before.length + block.length + (8 - before.length - block.length) - 1 := by
    have := List.length_pos_iff.2 hbefore
    omega
  simp only [readerAt, List.length_append, Nat.add_sub_cancel_left]
  rw [hindex, spreadPieces_block hbefore]

/-- A text that starts with a piece is read from its first character, with no `::` yet; when
the reader ends with all eight pieces and no `::`, they are the address. -/
theorem parseIpv6_of_start_full {c : Char} {rest : List Char} (hc : c ≠ ':')
    (hlen : 1 ≤ rest.length) {st : Ipv6State}
    (hread : readIpv6Pieces ((c :: rest).length + 1) ⟨List.replicate 8 0, 0, none⟩ (c :: rest) =
      .ok st) (hcompress : st.compress = none) (hindex : st.index = 8) :
    parseIpv6 (c :: rest) = .ok st.pieces := by
  unfold parseIpv6
  rw [if_neg (by simp only [List.length_cons]; omega)]
  split
  · cases hc (List.cons.inj ‹_›).1
  · cases hc (List.cons.inj ‹_›).1
  · simp only [pure, Except.pure, bind, Except.bind, hread, hcompress, if_pos hindex]

/-- A text that starts with a piece and has a `::` later: the block read after the `::` is moved
to the end. -/
theorem parseIpv6_of_start_compressed {c : Char} {rest : List Char} (hc : c ≠ ':')
    (hlen : 1 ≤ rest.length) {st : Ipv6State}
    (hread : readIpv6Pieces ((c :: rest).length + 1) ⟨List.replicate 8 0, 0, none⟩ (c :: rest) =
      .ok st) {k : Nat} (hcompress : st.compress = some k) :
    parseIpv6 (c :: rest) = .ok (spreadPieces k (st.index - k) 7 st.pieces) := by
  unfold parseIpv6
  rw [if_neg (by simp only [List.length_cons]; omega)]
  split
  · cases hc (List.cons.inj ‹_›).1
  · cases hc (List.cons.inj ‹_›).1
  · simp only [pure, Except.pure, bind, Except.bind, hread, hcompress]

/-- A text that starts with `::` is read after it, the first piece left zero. -/
theorem parseIpv6_of_compress {more : List Char} {st : Ipv6State}
    (hread : readIpv6Pieces ((':' :: ':' :: more).length + 1) ⟨List.replicate 8 0, 1, some 1⟩ more =
      .ok st) {k : Nat} (hcompress : st.compress = some k) :
    parseIpv6 (':' :: ':' :: more) = .ok (spreadPieces k (st.index - k) 7 st.pieces) := by
  unfold parseIpv6
  rw [if_neg (by simp)]
  simp only [pure, Except.pure, bind, Except.bind, hread, hcompress]

/-- A text with a `::` between two blocks of pieces is read as the first block, the zeros that
fill the address to eight pieces, then the second block. -/
theorem parseIpv6_compressed {front block : List Nat} (hlen : front.length + block.length + 2 ≤ 8)
    (hfront : ∀ v ∈ front, v < 0x10000) (hblock : ∀ v ∈ block, v < 0x10000) :
    parseIpv6 (hexGroups front ++ ':' :: ':' :: hexGroups block) =
      .ok (front ++ List.replicate (8 - front.length - block.length) 0 ++ block) := by
  have hbefore : front ++ [0] ≠ [] := by simp
  have hfill : front ++ List.replicate (8 - front.length - block.length) 0 ++ block =
      (front ++ [0]) ++ List.replicate (8 - (front ++ [0]).length - block.length) 0 ++ block := by
    rw [List.length_append, List.length_singleton,
      show 8 - front.length - block.length = (8 - (front.length + 1) - block.length) + 1 by omega,
      List.replicate_succ]
    simp
  have hblockText := length_le_hexGroups block
  rw [hfill]
  cases front with
  | nil =>
    -- the text starts with the `::`, which the parser reads before the pieces
    obtain ⟨st, hread, hcomp, hspread⟩ := readIpv6Pieces_after_compress hbefore (by simp; omega)
      hblock ((hexGroups block).length + 2 - block.length)
    have hstart : readIpv6Pieces ((':' :: ':' :: hexGroups block).length + 1)
        ⟨List.replicate 8 0, 1, some 1⟩ (hexGroups block) = .ok st := by
      rw [show (':' :: ':' :: hexGroups block).length + 1 =
        (hexGroups block).length + 2 - block.length + block.length + 1 by simp; omega]
      exact hread
    rw [List.nil_append, show hexGroups [] = [] from rfl, List.nil_append,
      parseIpv6_of_compress hstart hcomp]
    exact congrArg Except.ok hspread
  | cons v vs =>
    -- the first block, then the `::`, then the second block
    set front := v :: vs
    obtain ⟨c, rest, htext, hc⟩ := hexGroups_cons_eq v vs
    set total := (hexGroups front ++ ':' :: ':' :: hexGroups block).length with htotal
    have hsizes : front.length + block.length + 2 ≤ total := by
      have hfrontText := length_le_hexGroups front
      simp only [htotal, List.length_append, List.length_cons]
      omega
    set fuel := total + 1 - front.length - block.length - 2
    obtain ⟨st, hread, hcomp, hspread⟩ := readIpv6Pieces_after_compress hbefore (by simp; omega)
      hblock fuel
    have hstart : readIpv6Pieces (total + 1) (readerAt [] 8 none)
        (hexGroups front ++ ':' :: ':' :: hexGroups block) = .ok st := by
      rw [show total + 1 = fuel + block.length + 1 + 1 + front.length by omega,
        readIpv6Pieces_front (by simp) (by omega) hfront]
      exact hread
    rw [htotal, htext, List.cons_append] at hstart
    rw [htext, List.cons_append, parseIpv6_of_start_compressed hc
      (by simp only [List.length_append, List.length_cons]; omega) hstart hcomp]
    exact congrArg Except.ok hspread

/-- One step of the scan for the longest run of zeros, as `longestZeroRun` takes it: the best
run so far and where the current run of zeros started. -/
def zeroRunStep (acc : (Nat × Nat) × Option Nat) (ip : Nat × Nat) : (Nat × Nat) × Option Nat :=
  let ((best, bestLen), start) := acc
  let (p, i) := ip
  if p = 0 then
    let s := start.getD i
    let len := i + 1 - s
    (if len > bestLen then (s, len) else (best, bestLen), some s)
  else ((best, bestLen), none)

theorem longestZeroRun_eq (pieces : List Nat) :
    longestZeroRun pieces = (pieces.zipIdx.foldl zeroRunStep ((0, 0), none)).1 := rfl

/-- What the scan knows after a prefix of the pieces: its best run lies in the prefix and is all
zeros, and the current run, when there is one, reaches the end of the prefix and is all zeros. -/
structure ZeroRunScan (l : List Nat) (acc : (Nat × Nat) × Option Nat) : Prop where
  best_le : acc.1.1 + acc.1.2 ≤ l.length
  best_zero : (l.drop acc.1.1).take acc.1.2 = List.replicate acc.1.2 0
  current : ∀ s, acc.2 = some s → s ≤ l.length ∧ l.drop s = List.replicate (l.length - s) 0

/-- A run of zeros inside a list stays one when the list grows. -/
theorem drop_take_append {l : List Nat} {best len : Nat} (hle : best + len ≤ l.length)
    (h : (l.drop best).take len = List.replicate len 0) (r : List Nat) :
    ((l ++ r).drop best).take len = List.replicate len 0 := by
  rw [List.drop_append_of_le_length (by omega), List.take_append_of_le_length (by simp; omega), h]

/-- One more piece keeps what the scan knows. -/
theorem ZeroRunScan.step {l : List Nat} {acc : (Nat × Nat) × Option Nat} (h : ZeroRunScan l acc)
    (p : Nat) : ZeroRunScan (l ++ [p]) (zeroRunStep acc (p, l.length)) := by
  obtain ⟨⟨best, bestLen⟩, start⟩ := acc
  obtain ⟨hle, hzero, hcur⟩ := h
  simp only at hle hzero hcur
  -- the best run so far, kept
  have hkeep : ZeroRunScan (l ++ [p]) ((best, bestLen), none) :=
    ⟨by simp; omega, drop_take_append hle hzero _, by simp⟩
  unfold zeroRunStep
  by_cases hp : p = 0
  · subst hp
    -- the current run now ends at the new zero
    have hrun : start.getD l.length ≤ l.length ∧ (l ++ [0]).drop (start.getD l.length) =
        List.replicate (l.length + 1 - start.getD l.length) 0 := by
      cases start with
      | none => simp
      | some s =>
        obtain ⟨hs, hdrop⟩ := hcur s rfl
        refine ⟨hs, ?_⟩
        rw [Option.getD_some, List.drop_append_of_le_length (by omega), hdrop,
          show l.length + 1 - s = (l.length - s) + 1 by omega, List.replicate_succ']
    dsimp only
    rw [if_pos rfl]
    by_cases hbetter : l.length + 1 - start.getD l.length > bestLen
    · rw [if_pos hbetter]
      refine ⟨by simp; omega, ?_, ?_⟩
      · simp only
        rw [hrun.2, List.take_replicate, Nat.min_self]
      · simp only [Option.some.injEq, List.length_append, List.length_singleton]
        rintro s rfl
        exact ⟨by omega, hrun.2⟩
    · rw [if_neg hbetter]
      exact ⟨hkeep.1, hkeep.2, by
        simp only [Option.some.injEq, List.length_append, List.length_singleton]
        rintro s rfl
        exact ⟨by omega, hrun.2⟩⟩
  · simpa [hp] using hkeep

/-- What the scan knows holds of every list it runs over; by induction from the end of the list. -/
theorem zeroRunScan_foldl (l : List Nat) :
    ZeroRunScan l (l.zipIdx.foldl zeroRunStep ((0, 0), none)) := by
  induction l using List.reverseRecOn with
  | nil => exact ⟨by simp, by simp, by simp⟩
  | append_singleton l p ih =>
    rw [List.zipIdx_append, List.foldl_append]
    simpa using ih.step p

/-- The run `longestZeroRun` gives lies in the pieces and is all zeros. -/
theorem longestZeroRun_run (pieces : List Nat) :
    (longestZeroRun pieces).1 + (longestZeroRun pieces).2 ≤ pieces.length ∧
      pieces = pieces.take (longestZeroRun pieces).1 ++
        List.replicate (longestZeroRun pieces).2 0 ++
          pieces.drop ((longestZeroRun pieces).1 + (longestZeroRun pieces).2) := by
  obtain ⟨hle, hzero, -⟩ := zeroRunScan_foldl pieces
  rw [← longestZeroRun_eq] at hle hzero
  refine ⟨hle, ?_⟩
  rw [← hzero, List.append_assoc, ← List.drop_drop, List.take_append_drop, List.take_append_drop]

/-- An address of eight pieces of sixteen bits, written in hex with its longest run of zeros as
`::`, is read back as the same pieces. -/
theorem parseIpv6_ipv6Text {pieces : List Nat} (hlen : pieces.length = 8)
    (hsmall : ∀ p ∈ pieces, p < 0x10000) : parseIpv6 (ipv6Text pieces).toList = .ok pieces := by
  obtain ⟨hrun, hsplit⟩ := longestZeroRun_run pieces
  unfold ipv6Text
  generalize longestZeroRun pieces = run at hrun hsplit
  obtain ⟨s, len⟩ := run
  simp only at hrun hsplit ⊢
  by_cases hshort : len < 2
  · -- every piece is written, a colon between each two
    rw [if_pos hshort, toList_intercalate_hex]
    have hread : readIpv6Pieces ((hexGroups pieces).length + 1) (readerAt [] 8 none)
        (hexGroups pieces) = .ok (readerAt pieces 0 none) := by
      have hgroups := length_le_hexGroups pieces
      have htail := @readIpv6Pieces_tail none pieces ((hexGroups pieces).length - 8) [] 8 hsmall
        rfl (by omega)
      rwa [show (hexGroups pieces).length - 8 + pieces.length + 1 = (hexGroups pieces).length + 1
        by omega, List.nil_append, hlen] at htail
    obtain ⟨v, vs, rfl⟩ := List.exists_cons_of_ne_nil (List.ne_nil_of_length_eq_add_one hlen)
    obtain ⟨c, rest, htext, hc⟩ := hexGroups_cons_eq v vs
    have hrest : 1 ≤ rest.length := by
      have := length_le_hexGroups (v :: vs)
      rw [htext] at this
      simp only [List.length_cons] at this hlen
      omega
    rw [htext] at hread ⊢
    rw [parseIpv6_of_start_full hc hrest hread rfl hlen]
    simp [readerAt]
  · -- the pieces before the run, `::`, the pieces after it
    rw [if_neg hshort]
    have hfront : (pieces.take s).length = s := by simp; omega
    have hblock : (pieces.drop (s + len)).length = 8 - s - len := by simp [hlen]; omega
    have htext : (":".intercalate ((pieces.take s).map fun p => String.ofList (Nat.toDigits 16 p)) ++
        "::" ++ ":".intercalate ((pieces.drop (s + len)).map
          fun p => String.ofList (Nat.toDigits 16 p))).toList =
        hexGroups (pieces.take s) ++ ':' :: ':' :: hexGroups (pieces.drop (s + len)) := by
      rw [String.toList_append, String.toList_append, toList_intercalate_hex,
        toList_intercalate_hex, show "::".toList = [':', ':'] from rfl]
      simp
    rw [htext, parseIpv6_compressed (by omega)
      (fun p hp => hsmall p (List.mem_of_mem_take hp))
      (fun p hp => hsmall p (List.mem_of_mem_drop hp)), hfront, hblock,
      show 8 - s - (8 - s - len) = len by omega, ← hsplit]

/-! ## The address in an authority -/

/-- The text of pieces is hex digits and colons. -/
theorem mem_hexGroups {vs : List Nat} {c : Char} (h : c ∈ hexGroups vs) :
    c = ':' ∨ ∃ d < 16, c = Nat.digitChar d := by
  rcases mem_intercalate_singleton h with rfl | ⟨p, hp, hc⟩
  · exact .inl rfl
  · obtain ⟨v, -, rfl⟩ := List.mem_map.1 hp
    exact .inr (mem_toDigits_hex hc)

/-- The text of an address is hex digits and colons. -/
theorem mem_ipv6Text {pieces : List Nat} {c : Char} (h : c ∈ (ipv6Text pieces).toList) :
    c = ':' ∨ ∃ d < 16, c = Nat.digitChar d := by
  unfold ipv6Text at h
  generalize longestZeroRun pieces = run at h
  obtain ⟨s, len⟩ := run
  simp only at h
  split at h
  · rw [toList_intercalate_hex] at h
    exact mem_hexGroups h
  · simp only [String.toList_append, toList_intercalate_hex, List.mem_append] at h
    rcases h with (h | h) | h
    · exact mem_hexGroups h
    · exact .inl (by simpa using h)
    · exact mem_hexGroups h

/-- A character of the text of an address ends no part of an authority, and is no bracket. -/
theorem ne_of_mem_ipv6Text {pieces : List Nat} {c : Char} (h : c ∈ (ipv6Text pieces).toList) :
    ' ' < c ∧ c ≠ '/' ∧ c ≠ '?' ∧ c ≠ '#' ∧ c ≠ '\\' ∧ c ≠ '@' ∧ c ≠ '[' ∧ c ≠ ']' := by
  rcases mem_ipv6Text h with rfl | ⟨d, hd, rfl⟩
  · decide
  · interval_cases d <;> decide

/-- Inside the brackets a colon does not end the host: the scan runs to the `]` and stops at the
`:` or `/` after it. -/
theorem scanHost_bracketed {rest : List Char}
    (hrest : ∀ c, rest.head? = some c → c = ':' ∨ c = '/') :
    ∀ {cs : List Char}, (∀ c ∈ cs, c ≠ '/' ∧ c ≠ '?' ∧ c ≠ '#' ∧ c ≠ '\\' ∧ c ≠ '[' ∧ c ≠ ']') →
      scanHost true true (cs ++ ']' :: rest) = (cs ++ [']'], rest)
  | [], _ => by
    cases rest with
    | nil => rfl
    | cons c more => rcases hrest c rfl with rfl | rfl <;> simp [scanHost]
  | c :: cs, h => by
    obtain ⟨h1, h2, h3, h4, h5, h6⟩ := h c List.mem_cons_self
    rw [List.cons_append, scanHost, if_neg (by simp [h1, h2, h3, h4]), if_neg h5, if_neg h6]
    simp only [scanHost_bracketed hrest fun x hx => h x (List.mem_cons_of_mem c hx),
      List.cons_append]

/-- The text of an IPv6 host: the address in brackets. -/
theorem Host.text_ipv6_toList (pieces : List Nat) :
    (Host.ipv6 pieces).text.toList = '[' :: ((ipv6Text pieces).toList ++ [']']) := by
  simp [Host.text]

/-- An IPv6 address in brackets is read back whole in an authority. -/
theorem Host.Readable.ipv6 (pieces : List Nat) : (Host.ipv6 pieces).Readable where
  ne_nil := by simp [Host.text_ipv6_toList]
  visible c hc := by
    rw [Host.text_ipv6_toList] at hc
    rcases List.mem_cons.1 hc with rfl | hc
    · decide
    rcases List.mem_append.1 hc with hc | hc
    · obtain ⟨h0, h1, h2, h3, h4, h5, -⟩ := ne_of_mem_ipv6Text hc
      exact ⟨h0, h1, h2, h3, h4, h5⟩
    · rw [List.mem_singleton.1 hc]
      decide
  scan rest hrest := by
    rw [Host.text_ipv6_toList, List.cons_append, scanHost, if_neg (by decide), if_pos rfl,
      List.append_assoc, List.singleton_append]
    dsimp only
    rw [scanHost_bracketed hrest fun c hc => by
        obtain ⟨-, h1, h2, h3, h4, -, h5, h6⟩ := ne_of_mem_ipv6Text hc
        exact ⟨h1, h2, h3, h4, h5, h6⟩]

/-- An address the IPv6 reader gives, written in brackets, is read back as itself. -/
theorem Host.parseSpecial_ipv6Text {pieces : List Nat} (hlen : pieces.length = 8)
    (hsmall : ∀ p ∈ pieces, p < 0x10000) :
    Host.parseSpecial (Host.ipv6 pieces).text.toList = .ok (.ipv6 pieces) := by
  have hlast : ('[' :: ((ipv6Text pieces).toList ++ [']'])).getLast? = some ']' := by
    rw [← List.cons_append, List.getLast?_concat]
  rw [Host.text_ipv6_toList]
  unfold Host.parseSpecial bracketed
  simp [hlast, parseIpv6_ipv6Text hlen hsmall, Except.map]

end WriteAccess.Url
