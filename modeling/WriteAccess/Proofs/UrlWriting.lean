import Mathlib
import WriteAccess.Url.Parser

/-!
# Writing URLs and reading them back

A URL under `http` or `https` is written by `Url.text`, every part already percent-encoded.
Written out and parsed again, such a URL comes back part for part when its parts are of the kind
the parser leaves: credentials and path segments made of characters their encode sets keep, no
segment that is a dot segment or holds a separator, a port that is not the scheme's default, and
a host whose text is read back whole (`parse_text_of_written`).

The first part shows that encoding is idempotent: every character an encode set writes is one
the set keeps (a character of the input, or `%` and an upper-case hex digit), and a text of
kept characters is encoded as itself.
-/

namespace WriteAccess.Url

/-! ## Characters an encode set keeps -/

namespace EncodeSet

/-- Whether a set writes a character as it is: printable ASCII that the set does not add. -/
def keeps (set : EncodeSet) (c : Char) : Bool :=
  0x20 ≤ c.toNat && c.toNat < 0x7F && !set.extra.contains c

theorem keeps_percent (set : EncodeSet) : set.keeps '%' = true := by
  cases set <;> decide

theorem keeps_hexDigit (set : EncodeSet) : ∀ n, n < 16 → set.keeps (hexDigit n) = true
  | 0, _ | 1, _ | 2, _ | 3, _ | 4, _ | 5, _ | 6, _ | 7, _ | 8, _ | 9, _ | 10, _ | 11, _ | 12, _
  | 13, _ | 14, _ | 15, _ => by cases set <;> decide
  | _ + 16, h => absurd h (by omega)

/-- A set that adds the space keeps only characters above it. -/
theorem space_lt_of_keeps {set : EncodeSet} (hspace : set.extra.contains ' ' = true) {c : Char}
    (h : set.keeps c = true) : ' ' < c := by
  simp only [keeps, Bool.and_eq_true, decide_eq_true_eq, Bool.not_eq_true'] at h
  obtain ⟨⟨hlo, -⟩, hextra⟩ := h
  have hne : c.toNat ≠ 32 := fun h32 => by
    rw [show c = ' ' from Char.ext (UInt32.toNat_inj.1 h32), hspace] at hextra
    cases hextra
  rw [Char.lt_def, UInt32.lt_iff_toNat_lt]
  simp only [Char.toNat] at hlo hne
  change 32 < c.val.toNat
  omega

end EncodeSet

/-- An ASCII character is one byte in UTF-8, its code. -/
theorem utf8EncodeChar_of_lt {c : Char} (h : c.toNat < 0x80) :
    String.utf8EncodeChar c = [UInt8.ofNat c.toNat] := by
  have hval : c.val ≤ 127 := by
    rw [UInt32.le_iff_toNat_le]
    exact Nat.le_of_lt_succ h
  rw [String.utf8EncodeChar_eq_singleton (Char.utf8Size_eq_one_iff.2 hval)]
  rfl

/-- The byte of an ASCII character has the character's code. -/
theorem toNat_byte_of_lt {c : Char} (h : c.toNat < 0x80) :
    (UInt8.ofNat c.toNat).toNat = c.toNat := by
  simp only [UInt8.toNat_ofNat']
  omega

/-- For an ASCII character, being kept is its byte being outside the set. -/
theorem keeps_eq_not_containsByte {set : EncodeSet} {c : Char} (h : c.toNat < 0x80) :
    set.keeps c = !set.containsByte (UInt8.ofNat c.toNat) := by
  simp only [EncodeSet.keeps, EncodeSet.containsByte, UInt8.lt_iff_toNat_lt,
    UInt8.le_iff_toNat_le, toNat_byte_of_lt h, Char.ofNat_toNat]
  have h32 : (32 : UInt8).toNat = 32 := rfl
  have h127 : (127 : UInt8).toNat = 127 := rfl
  rw [Bool.eq_iff_iff]
  simp only [Bool.and_eq_true, decide_eq_true_eq, Bool.not_eq_eq_eq_not, Bool.not_true,
    Bool.or_eq_false_iff, decide_eq_false_iff_not, h32, h127]
  exact and_congr_left fun _ => by omega

/-- Every byte of a character beyond ASCII is at least `0x80`. -/
theorem le_of_mem_utf8EncodeChar {x : Char} (h : 0x80 ≤ x.toNat) :
    ∀ b ∈ String.utf8EncodeChar x, 0x80 ≤ b.toNat := by
  have hv : ¬ x.val.toNat ≤ 0x7F := by
    simp only [Char.toNat] at h
    omega
  unfold String.utf8EncodeChar
  simp only [hv, if_false]
  split
  · simp only [List.mem_cons, List.not_mem_nil, or_false, forall_eq_or_imp, forall_eq,
      UInt8.toNat_ofNat']
    omega
  · split <;> simp only [List.mem_cons, List.not_mem_nil, or_false, forall_eq_or_imp,
      forall_eq, UInt8.toNat_ofNat'] <;> omega

/-- A kept character is written as it is. -/
theorem encodeChar_of_keeps {set : EncodeSet} {c : Char} (h : set.keeps c = true) :
    encodeChar set c = String.singleton c := by
  have hascii : c.toNat < 0x80 := by
    simp only [EncodeSet.keeps, Bool.and_eq_true, decide_eq_true_eq] at h
    omega
  have hcontains : set.containsByte (UInt8.ofNat c.toNat) = false := by
    simpa [keeps_eq_not_containsByte hascii] using h
  simp [encodeChar, utf8EncodeChar_of_lt hascii, encodeByte, hcontains, toNat_byte_of_lt hascii]

/-- A list of kept characters is written as it is. -/
theorem encodeChars_of_keeps {set : EncodeSet} {cs : List Char}
    (h : ∀ c ∈ cs, set.keeps c = true) : encodeChars set cs = String.ofList cs := by
  induction cs with
  | nil => rfl
  | cons c rest ih =>
    have hrest := ih (fun x hx => h x (List.mem_cons_of_mem c hx))
    rw [encodeChars, List.map_cons, String.join_cons, ← encodeChars, hrest,
      encodeChar_of_keeps (h c List.mem_cons_self)]
    simp

/-- A character written for a byte is the byte's own character, when the set does not hold the
byte, or else `%` or an upper-case hex digit. -/
theorem mem_encodeByte {set : EncodeSet} {b : UInt8} {c : Char}
    (h : c ∈ (encodeByte set b).toList) :
    (set.containsByte b = false ∧ c = Char.ofNat b.toNat) ∨ c = '%' ∨
      ∃ n < 16, c = hexDigit n := by
  unfold encodeByte at h
  split at h
  · have hb := b.toNat_lt
    simp only [percentByte, String.toList_ofList, List.mem_cons, List.not_mem_nil,
      or_false] at h
    rcases h with rfl | rfl | rfl
    · exact .inr (.inl rfl)
    · exact .inr (.inr ⟨_, by omega, rfl⟩)
    · exact .inr (.inr ⟨_, by omega, rfl⟩)
  · next hheld =>
    simp only [String.toList_singleton, List.mem_singleton] at h
    exact .inl ⟨by simpa using hheld, h⟩

/-- Every character of an encoded text is a kept character of the input, `%`, or an upper-case
hex digit. -/
theorem mem_encodeChars {set : EncodeSet} {cs : List Char} {c : Char}
    (h : c ∈ (encodeChars set cs).toList) :
    (c ∈ cs ∧ set.keeps c = true) ∨ c = '%' ∨ ∃ n < 16, c = hexDigit n := by
  simp only [encodeChars, String.toList_join, List.mem_flatMap, List.mem_map] at h
  obtain ⟨_, ⟨x, hx, rfl⟩, hc⟩ := h
  simp only [encodeChar, String.toList_join, List.mem_flatMap, List.mem_map] at hc
  obtain ⟨_, ⟨b, hb, rfl⟩, hcb⟩ := hc
  rcases mem_encodeByte hcb with ⟨hplain, rfl⟩ | hpct | hhex
  · -- a byte written as it is is below DEL, so it is the whole of an ASCII character
    have hlow : b.toNat < 0x7F := by
      simp only [EncodeSet.containsByte, Bool.or_eq_false_iff, decide_eq_false_iff_not,
        UInt8.le_iff_toNat_le] at hplain
      simpa using hplain.1.2
    have hx80 : x.toNat < 0x80 := by
      refine Nat.lt_of_not_le fun hge => ?_
      have := le_of_mem_utf8EncodeChar hge b hb
      omega
    rw [utf8EncodeChar_of_lt hx80, List.mem_singleton] at hb
    subst hb
    rw [toNat_byte_of_lt hx80, Char.ofNat_toNat]
    exact .inl ⟨hx, by simpa [keeps_eq_not_containsByte hx80] using hplain⟩
  · exact .inr (.inl hpct)
  · exact .inr (.inr hhex)

/-- Every character of an encoded text is one the set keeps. -/
theorem keeps_of_mem_encodeChars {set : EncodeSet} {cs : List Char} {c : Char}
    (h : c ∈ (encodeChars set cs).toList) : set.keeps c = true := by
  rcases mem_encodeChars h with ⟨-, hkeep⟩ | rfl | ⟨n, hn, rfl⟩
  · exact hkeep
  · exact EncodeSet.keeps_percent set
  · exact EncodeSet.keeps_hexDigit set n hn

/-- Encoding is idempotent. -/
theorem encodeChars_encodeChars (set : EncodeSet) (cs : List Char) :
    encodeChars set (encodeChars set cs).toList = encodeChars set cs := by
  rw [encodeChars_of_keeps (fun _ hc => keeps_of_mem_encodeChars hc), String.ofList_toList]

/-! ## Cutting texts -/

/-- Spanning a list whose first part satisfies the predicate and whose rest starts with an
element that does not. -/
theorem span_append_of_all {α : Type} {p : α → Bool} {l₁ l₂ : List α} (h₁ : ∀ a ∈ l₁, p a)
    (h₂ : ∀ b, l₂.head? = some b → p b = false) : (l₁ ++ l₂).span p = (l₁, l₂) := by
  rw [List.span_eq_takeWhile_dropWhile, List.takeWhile_append_of_pos h₁,
    List.dropWhile_append_of_pos h₁]
  cases l₂ with
  | nil => simp
  | cons b rest =>
    have hb : ¬ p b = true := by simp [h₂ b rfl]
    rw [List.takeWhile_cons_of_neg hb, List.dropWhile_cons_of_neg hb, List.append_nil]

/-- Cutting at separators reads a part with none of them onto the current piece. -/
theorem splitSegments_append (sep : Char → Bool) :
    ∀ (part rest current : List Char), (∀ c ∈ part, sep c = false) →
      splitSegments sep (part ++ rest) current = splitSegments sep rest (part.reverse ++ current)
  | [], _, _, _ => rfl
  | c :: part, rest, current, h => by
    rw [List.cons_append, splitSegments, if_neg (by simp [h c List.mem_cons_self]),
      splitSegments_append sep part rest (c :: current)
        (fun x hx => h x (List.mem_cons_of_mem c hx))]
    simp

/-- Cutting pieces joined by a separator, none of which holds one, gives the pieces back. -/
theorem splitSegments_intercalate (sep : Char → Bool) {x : Char} (hx : sep x = true) :
    ∀ (pieces : List (List Char)), pieces ≠ [] → (∀ p ∈ pieces, ∀ c ∈ p, sep c = false) →
      splitSegments sep ([x].intercalate pieces) [] = pieces
  | [], hne, _ => absurd rfl hne
  | [p], _, h => by
    rw [List.intercalate_singleton, ← List.append_nil p,
      splitSegments_append sep p [] [] (h p List.mem_cons_self)]
    simp [splitSegments]
  | p :: q :: rest, _, h => by
    rw [List.intercalate_cons_cons, List.append_assoc,
      splitSegments_append sep p _ [] (h p List.mem_cons_self), List.singleton_append,
      splitSegments, if_pos hx,
      splitSegments_intercalate sep hx (q :: rest) (List.cons_ne_nil q rest)
        (fun p' hp' => h p' (List.mem_cons_of_mem p hp'))]
    simp

/-- A character of pieces joined by a separator is the separator or a character of a piece. -/
theorem mem_intercalate_singleton {x c : Char} :
    ∀ {pieces : List (List Char)}, c ∈ [x].intercalate pieces → c = x ∨ ∃ p ∈ pieces, c ∈ p
  | [], h => by simp at h
  | [p], h => .inr ⟨p, List.mem_cons_self, by simpa using h⟩
  | p :: q :: rest, h => by
    rw [List.intercalate_cons_cons, List.mem_append, List.mem_append] at h
    rcases h with (hp | hx) | hrest
    · exact .inr ⟨p, List.mem_cons_self, hp⟩
    · exact .inl (by simpa using hx)
    · rcases mem_intercalate_singleton hrest with hx | ⟨p', hp', hc⟩
      · exact .inl hx
      · exact .inr ⟨p', List.mem_cons_of_mem p hp', hc⟩

/-! ## Path segments -/

/-- A path segment as the parser leaves it: made of characters the path set keeps, with no
separator in it, and not a dot segment. -/
structure PlainSegment (s : String) : Prop where
  keeps : ∀ c ∈ s.toList, EncodeSet.path.keeps c = true
  no_slash : '/' ∉ s.toList
  no_backslash : '\\' ∉ s.toList
  not_single_dot : isSingleDot s = false
  not_double_dot : isDoubleDot s = false

/-- A character the path set keeps is visible and neither `?` nor `#`. -/
theorem ne_of_path_keeps {c : Char} (h : EncodeSet.path.keeps c = true) :
    ' ' < c ∧ c ≠ '?' ∧ c ≠ '#' := by
  refine ⟨EncodeSet.space_lt_of_keeps (by decide) h, ?_⟩
  simp only [EncodeSet.keeps, EncodeSet.extra, Bool.and_eq_true, Bool.not_eq_true'] at h
  constructor <;> rintro rfl <;> simp at h

/-- A plain segment is added to the path as it is, followed by a separator or not. -/
theorem pathStep_plain {s : String} (hs : PlainSegment s) (path : List String) (drive : Bool)
    (separatorAfter : Bool) : pathStep false (path, drive) s.toList separatorAfter =
      (path ++ [s], drive) := by
  have hbuffer : encodeChars .path s.toList = s := by
    rw [encodeChars_of_keeps hs.keeps, String.ofList_toList]
  simp [pathStep, hbuffer, hs.not_single_dot, hs.not_double_dot]

/-- Plain segments are added to the path in order. -/
theorem applySegments_plain : ∀ (path items : List String) (drive : Bool),
    (∀ s ∈ items, PlainSegment s) →
      applySegments false (path, drive) (items.map String.toList) = (path ++ items, drive)
  | path, [], _, _ => by simp [applySegments]
  | path, [s], drive, h => by
    simp [applySegments, pathStep_plain (h s List.mem_cons_self)]
  | path, s :: t :: rest, drive, h => by
    rw [List.map_cons, applySegments, pathStep_plain (h s List.mem_cons_self),
      applySegments_plain (path ++ [s]) (t :: rest) drive
        (fun x hx => h x (List.mem_cons_of_mem s hx))]
    · simp
    · simp

/-- The path state reads plain segments joined by slashes back to those segments, up to the `?`
or `#` that follows them. -/
theorem readPath_plain {items : List String} (hne : items ≠ [])
    (h : ∀ s ∈ items, PlainSegment s) {rest : List Char}
    (hrest : ∀ c, rest.head? = some c → c = '?' ∨ c = '#') :
    readPath true false [] (("/".intercalate items).toList ++ rest) = (items, false, rest) := by
  have hchars : ∀ c ∈ ("/".intercalate items).toList, c = '/' ∨ ∃ s ∈ items, c ∈ s.toList := by
    intro c hc
    rw [String.toList_intercalate] at hc
    rcases mem_intercalate_singleton hc with hsep | ⟨p, hp, hcp⟩
    · exact .inl hsep
    · obtain ⟨s, hs, rfl⟩ := List.mem_map.1 hp
      exact .inr ⟨s, hs, hcp⟩
  -- no `?` or `#` ends the path early
  have hspan : (("/".intercalate items).toList ++ rest).span (fun c => c != '?' && c != '#') =
      (("/".intercalate items).toList, rest) := by
    refine span_append_of_all (fun c hc => ?_) fun c hc => ?_
    · rcases hchars c hc with rfl | ⟨s, hs, hcs⟩
      · decide
      · obtain ⟨-, hq, hh⟩ := ne_of_path_keeps ((h s hs).keeps c hcs)
        simp [hq, hh]
    · rcases hrest c hc with rfl | rfl <;> decide
  have hsplit : splitSegments (fun c => c = '/' || (true && c = '\\'))
      ("/".intercalate items).toList [] = items.map String.toList := by
    rw [String.toList_intercalate]
    refine splitSegments_intercalate _ (by decide) _ (by simpa using hne) ?_
    intro p hp c hc
    obtain ⟨s, hs, rfl⟩ := List.mem_map.1 hp
    have hslash : c ≠ '/' := fun hc' => (h s hs).no_slash (hc' ▸ hc)
    have hback : c ≠ '\\' := fun hc' => (h s hs).no_backslash (hc' ▸ hc)
    simp [hslash, hback]
  simp only [readPath, hspan, hsplit, applySegments_plain [] items false h, List.nil_append,
    Bool.false_eq_true, if_false]

/-! ## Queries -/

/-- The characters of a query after the path: `?` and the query, or nothing. -/
def queryChars : Option String → List Char
  | some q => '?' :: q.toList
  | none => []

/-- A query of characters the special-query set keeps is read back as it is, with no
fragment. -/
theorem readQueryAndFragment_queryChars {query : Option String}
    (hquery : ∀ q ∈ query, ∀ c ∈ q.toList, EncodeSet.specialQuery.keeps c = true) :
    readQueryAndFragment true (queryChars query) = (query, none) := by
  cases query with
  | none => rfl
  | some q =>
    have hkeeps := hquery q rfl
    have hhash : ∀ c ∈ q.toList, (c != '#') = true := fun c hc => by
      have hc := hkeeps c hc
      rw [bne_iff_ne]
      rintro rfl
      revert hc
      decide
    have htake : q.toList.takeWhile (· != '#') = q.toList := List.takeWhile_eq_self_iff.2 hhash
    have hdrop : q.toList.dropWhile (· != '#') = [] := List.dropWhile_eq_nil_iff.2 hhash
    simp [queryChars, readQueryAndFragment, htake, hdrop, encodeChars_of_keeps hkeeps,
      readFragment]

/-! ## Authorities -/

/-- A host whose text is read back whole: the text is not empty, every character of it is
visible ASCII other than `@` and the characters that end an authority, and the host scanner
takes all of it, up to a `:` or `/` that follows. -/
structure Host.Readable (h : Host) : Prop where
  ne_nil : h.text.toList ≠ []
  visible : ∀ c ∈ h.text.toList,
    ' ' < c ∧ c ≠ '/' ∧ c ≠ '?' ∧ c ≠ '#' ∧ c ≠ '\\' ∧ c ≠ '@'
  scan : ∀ rest : List Char, (∀ c, rest.head? = some c → c = ':' ∨ c = '/') →
    scanHost true false (h.text.toList ++ rest) = (h.text.toList, rest)

/-- An authority as the parser leaves it under a special scheme: credentials of characters the
userinfo set keeps, a host whose text is read back whole, and a port that fits 16 bits and is
not the scheme's default. -/
structure Authority.Written (scheme : String) (a : Authority) : Prop where
  username : ∀ c ∈ a.username.toList, EncodeSet.userinfo.keeps c = true
  password : ∀ c ∈ a.password.toList, EncodeSet.userinfo.keeps c = true
  host : a.host.Readable
  port : ∀ p, a.port = some p → p ≤ 65535 ∧ defaultPort scheme ≠ some p

/-- A character the userinfo set keeps is visible and ends neither the credentials nor the
authority. -/
theorem ne_of_userinfo_keeps {c : Char} (h : EncodeSet.userinfo.keeps c = true) :
    ' ' < c ∧ c ≠ ':' ∧ c ≠ '@' ∧ c ≠ '/' ∧ c ≠ '?' ∧ c ≠ '#' ∧ c ≠ '\\' := by
  refine ⟨EncodeSet.space_lt_of_keeps (by decide) h, ?_⟩
  simp only [EncodeSet.keeps, EncodeSet.extra, Bool.and_eq_true, Bool.not_eq_true'] at h
  refine ⟨?_, ?_, ?_, ?_, ?_, ?_⟩ <;> rintro rfl <;> simp at h

/-- The characters of the credentials before the `@`: the username, then `:` and the password
when there is one. -/
def Authority.userinfoChars (a : Authority) : List Char :=
  a.username.toList ++ (if a.password.isEmpty then [] else ':' :: a.password.toList)

/-- The characters of a port after its `:`. -/
def portChars : Option Nat → List Char
  | some p => ':' :: Nat.toDigits 10 p
  | none => []

/-- How an authority is written, as characters. -/
theorem Authority.text_toList (a : Authority) :
    a.text.toList =
      (if a.username.isEmpty && a.password.isEmpty then [] else a.userinfoChars ++ ['@']) ++
        a.host.text.toList ++ portChars a.port := by
  unfold Authority.text Authority.userinfoChars
  cases a.port <;> split <;> split <;> simp_all [portChars]

/-- A decimal digit is a visible character that separates nothing in a URL. -/
theorem visible_of_isDigit {c : Char} (h : c.isDigit = true) :
    ' ' < c ∧ c ≠ '/' ∧ c ≠ '?' ∧ c ≠ '#' ∧ c ≠ '\\' ∧ c ≠ '@' ∧ c ≠ ':' := by
  simp only [Char.isDigit, Bool.and_eq_true, decide_eq_true_eq] at h
  obtain ⟨hlo, hhi⟩ := h
  simp only [Char.lt_def, UInt32.le_iff_toNat_le, UInt32.lt_iff_toNat_lt] at hlo hhi ⊢
  refine ⟨?_, ?_, ?_, ?_, ?_, ?_, ?_⟩
  · simp at hlo ⊢
    omega
  all_goals rintro rfl; simp_all

/-- A port is written as a colon and decimal digits. -/
theorem mem_portChars {port : Option Nat} {c : Char} (h : c ∈ portChars port) :
    c = ':' ∨ c.isDigit = true := by
  cases port with
  | none => simp [portChars] at h
  | some p =>
    rcases List.mem_cons.1 h with rfl | h
    · exact .inl rfl
    · exact .inr (Nat.isDigit_of_mem_toDigits (by decide) (by decide) h)

/-- Every character of a written authority is visible and neither ends the authority nor is a
slash before it. -/
theorem Authority.Written.text_chars {scheme : String} {a : Authority} (ha : a.Written scheme) :
    ∀ c ∈ a.text.toList, ' ' < c ∧ c ≠ '/' ∧ c ≠ '?' ∧ c ≠ '#' ∧ c ≠ '\\' := by
  intro c hc
  rw [Authority.text_toList] at hc
  simp only [List.mem_append] at hc
  rcases hc with (hcred | hhost) | hport
  · split at hcred
    · simp at hcred
    · simp only [Authority.userinfoChars, List.mem_append] at hcred
      rcases hcred with (hu | hpw) | hat
      · obtain ⟨h0, -, -, h1, h2, h3, h4⟩ := ne_of_userinfo_keeps (ha.username c hu)
        exact ⟨h0, h1, h2, h3, h4⟩
      · split at hpw
        · simp at hpw
        · rcases List.mem_cons.1 hpw with rfl | hpw
          · decide
          · obtain ⟨h0, -, -, h1, h2, h3, h4⟩ := ne_of_userinfo_keeps (ha.password c hpw)
            exact ⟨h0, h1, h2, h3, h4⟩
      · rw [List.mem_singleton.1 hat]
        decide
  · obtain ⟨h0, h1, h2, h3, h4, -⟩ := ha.host.visible c hhost
    exact ⟨h0, h1, h2, h3, h4⟩
  · rcases mem_portChars hport with rfl | hdigit
    · decide
    · obtain ⟨h0, h1, h2, h3, h4, -⟩ := visible_of_isDigit hdigit
      exact ⟨h0, h1, h2, h3, h4⟩

/-- The last `@` of a text cuts it, when none follows it. -/
theorem splitLastAt_of_append {pre post : List Char} (h : '@' ∉ post) :
    splitLastAt (pre ++ '@' :: post) = some (pre, post) := by
  have hspan : (post.reverse ++ '@' :: pre.reverse).span (· != '@') =
      (post.reverse, '@' :: pre.reverse) :=
    span_append_of_all (fun a ha => by
      have : a ≠ '@' := fun hat => h (hat ▸ List.mem_reverse.1 ha)
      simpa using this) (by simp)
  unfold splitLastAt
  rw [show (pre ++ '@' :: post).reverse = post.reverse ++ '@' :: pre.reverse by simp, hspan]
  simp

/-- A text without `@` is not cut. -/
theorem splitLastAt_of_not_mem {cs : List Char} (h : '@' ∉ cs) : splitLastAt cs = none := by
  have hspan : (cs.reverse ++ []).span (· != '@') = (cs.reverse, []) :=
    span_append_of_all (fun a ha => by
      have : a ≠ '@' := fun hat => h (hat ▸ List.mem_reverse.1 ha)
      simpa using this) (by simp)
  rw [List.append_nil] at hspan
  unfold splitLastAt
  rw [hspan]

/-- The credentials of a written authority are read back. -/
theorem credentialsOf_userinfoChars {a : Authority}
    (hu : ∀ c ∈ a.username.toList, EncodeSet.userinfo.keeps c = true)
    (hp : ∀ c ∈ a.password.toList, EncodeSet.userinfo.keeps c = true) :
    credentialsOf a.userinfoChars = (a.username, a.password) := by
  have hcolon : ∀ c ∈ a.username.toList, (c != ':') = true := fun c hc => by
    simpa using (ne_of_userinfo_keeps (hu c hc)).2.1
  have huser : encodeChars .userinfo a.username.toList = a.username := by
    rw [encodeChars_of_keeps hu, String.ofList_toList]
  unfold Authority.userinfoChars credentialsOf
  by_cases hpass : a.password.isEmpty = true
  · have hspan := (span_append_of_all hcolon (by simp) :
      (a.username.toList ++ []).span (· != ':') = (_, []))
    rw [if_pos hpass, hspan]
    simp [huser, String.isEmpty_iff.1 hpass]
  · rw [if_neg hpass, span_append_of_all hcolon (by simp)]
    simp [huser, encodeChars_of_keeps hp]

/-- A port written after its `:` is read back up to the `/` that follows. -/
theorem readPort_digits (scheme : String) :
    ∀ (ds rest : List Char) (value : Nat) (anyDigit : Bool), (∀ d ∈ ds, d.isDigit = true) →
      Nat.ofDigitChars 10 ds value ≤ 65535 →
      readPort scheme value anyDigit (ds ++ rest) =
        readPort scheme (Nat.ofDigitChars 10 ds value) (anyDigit || !ds.isEmpty) rest
  | [], rest, value, anyDigit, _, _ => by simp
  | d :: ds, rest, value, anyDigit, hdigits, hbound => by
    have hd := hdigits d List.mem_cons_self
    -- each prefix of the digits reads to at most the whole number
    have hstep : value * 10 + (d.toNat - 48) ≤ 65535 := by
      rw [Nat.ofDigitChars_cons, Nat.ofDigitChars_eq_ofDigitChars_zero] at hbound
      have : 10 * value + (d.toNat - 48) ≤ 10 ^ ds.length * (10 * value + (d.toNat - 48)) :=
        Nat.le_mul_of_pos_left _ (Nat.pow_pos (by decide))
      simp only [Char.reduceToNat] at hbound
      omega
    rw [List.cons_append, readPort, if_pos hd, if_neg (by omega),
      readPort_digits scheme ds rest _ true (fun x hx => hdigits x (List.mem_cons_of_mem d hx))
        (by rw [Nat.ofDigitChars_cons] at hbound; simpa [Nat.mul_comm] using hbound)]
    simp [Nat.ofDigitChars_cons, Nat.mul_comm]

/-- A port other than the default, written in decimal, is read back. -/
theorem readPort_toDigits {scheme : String} {p : Nat} (hp : p ≤ 65535)
    (hdefault : defaultPort scheme ≠ some p) (rest : List Char) :
    readPort scheme 0 false (Nat.toDigits 10 p ++ '/' :: rest) = .ok (some p, '/' :: rest) := by
  rw [readPort_digits scheme _ _ 0 false (fun d hd => Nat.isDigit_of_mem_toDigits (by decide)
      (by decide) hd) (by simpa using hp)]
  simp [readPort, Nat.toDigits_ne_nil, Ne.symm hdefault]

/-- The host parser under a special scheme never gives the empty host. -/
theorem parseSpecial_ne_empty {cs : List Char} {h : Host} (hp : Host.parseSpecial cs = .ok h) :
    h ≠ .empty := by
  unfold Host.parseSpecial bracketed at hp
  split at hp
  · split at hp
    · cases hv6 : parseIpv6 cs.tail.dropLast <;> simp [hv6, Except.map] at hp
      subst hp
      simp
    · cases hp
  · split at hp
    · cases hp
    · cases hp
    · split at hp
      · next name _ _ _ =>
        cases hv4 : parseIpv4 name <;> simp [hv4, Except.map] at hp
        subst hp
        simp
      · cases hp
        simp

/-- The credentials of a written authority are read back, and its host and port follow them. -/
theorem readCredentials_written {scheme : String} {a : Authority} (ha : a.Written scheme)
    (rest : List Char) :
    readCredentials (a.text.toList ++ rest) a.text.toList rest =
      .ok (a.username, a.password, a.host.text.toList ++ (portChars a.port ++ rest)) := by
  have hat : '@' ∉ a.host.text.toList ++ portChars a.port := by
    rw [List.mem_append, not_or]
    refine ⟨fun hmem => (ha.host.visible '@' hmem).2.2.2.2.2 rfl, fun hmem => ?_⟩
    rcases mem_portChars hmem with h | h <;> simp at h
  by_cases hcred : (a.username.isEmpty && a.password.isEmpty) = true
  · -- no credentials: the authority has no `@`, and reading starts at the host
    obtain ⟨huser, hpass⟩ : a.username = "" ∧ a.password = "" := by
      simpa [String.isEmpty_iff] using hcred
    have htext : a.text.toList = a.host.text.toList ++ portChars a.port := by
      simp [Authority.text_toList, hcred]
    rw [readCredentials, htext, splitLastAt_of_not_mem hat, huser, hpass]
    simp
  · -- credentials before the last `@`, which the host and port do not hold
    have htext : a.text.toList =
        a.userinfoChars ++ '@' :: (a.host.text.toList ++ portChars a.port) := by
      simp [Authority.text_toList, hcred]
    have hinfo : a.userinfoChars ≠ [] := by
      intro hnil
      simp only [Authority.userinfoChars, List.append_eq_nil_iff, String.toList_eq_nil_iff]
        at hnil
      obtain ⟨hu, hp⟩ := hnil
      split at hp
      · next hpw => simp [hu, hpw] at hcred
      · simp at hp
    obtain ⟨c, cs, hcs⟩ := List.exists_cons_of_ne_nil hinfo
    have hcredOf : credentialsOf (c :: cs) = (a.username, a.password) :=
      hcs ▸ credentialsOf_userinfoChars ha.username ha.password
    rw [readCredentials, htext, splitLastAt_of_append hat, hcs]
    simp [hcredOf]

/-- An authority written after the slashes and followed by plain path segments and a plain query
is read back: the host as the host parser reads its text, everything else as it was written. -/
theorem parseAuthority_written {scheme : String} (hspecial : isSpecialScheme scheme = true)
    {a : Authority} (ha : a.Written scheme) {items : List String} (hne : items ≠ [])
    (hitems : ∀ s ∈ items, PlainSegment s) {query : Option String}
    (hquery : ∀ q ∈ query, ∀ c ∈ q.toList, EncodeSet.specialQuery.keeps c = true) :
    parseAuthority scheme
        (a.text.toList ++ '/' :: (("/".intercalate items).toList ++ queryChars query)) =
      (Host.parseSpecial a.host.text.toList).map fun h =>
        ⟨scheme, some { a with host := h }, .segments items, query, none⟩ := by
  set path := ("/".intercalate items).toList ++ queryChars query with hpath
  -- the authority runs up to the slash of the path
  have hspan : (a.text.toList ++ '/' :: path).span
      (fun c => !(decide (c = '/') || decide (c = '?') || decide (c = '#') ||
        true && decide (c = '\\'))) = (a.text.toList, '/' :: path) := by
    refine span_append_of_all (fun c hc => ?_) (by simp)
    obtain ⟨-, h1, h2, h3, h4⟩ := ha.text_chars c hc
    simp [h1, h2, h3, h4]
  have hscan : scanHost true false (a.host.text.toList ++ (portChars a.port ++ '/' :: path)) =
      (a.host.text.toList, portChars a.port ++ '/' :: path) := by
    refine ha.host.scan _ fun c hc => ?_
    cases hp : a.port with
    | none =>
      simp only [hp, portChars, List.nil_append, List.head?_cons, Option.some.injEq] at hc
      exact .inr hc.symm
    | some p =>
      simp only [hp, portChars, List.cons_append, List.head?_cons, Option.some.injEq] at hc
      exact .inl hc.symm
  have hpathRead : readPath true false [] path = (items, false, queryChars query) :=
    readPath_plain hne hitems fun c hc => by
      cases query with
      | none => cases hc
      | some q => exact .inl (Option.some.inj hc).symm
  have hhost : a.host.text.toList.isEmpty = false := by simpa using ha.host.ne_nil
  unfold parseAuthority
  simp only [hspecial, hspan, readCredentials_written ha, bind, Except.bind, hscan, readHost, if_true, hhost,
    Bool.false_eq_true, if_false]
  cases hparse : Host.parseSpecial a.host.text.toList with
  | error e => rfl
  | ok h =>
    have hh := parseSpecial_ne_empty hparse
    cases hp : a.port with
    | none =>
      simp [hh, portChars, refuseIf, readPortAfter, readAuthorityPath, hpathRead,
        readQueryAndFragment_queryChars hquery, Except.map, pure, Except.pure]
    | some p =>
      obtain ⟨hle, hdefault⟩ := ha.port p hp
      simp [hh, portChars, refuseIf, readPortAfter, readAuthorityPath,
        readPort_toDigits hle hdefault, hpathRead, readQueryAndFragment_queryChars hquery,
        Except.map, pure, Except.pure]

/-! ## Whole URLs -/

/-- Plain segments are written each after a slash. -/
theorem segments_text_toList {items : List String} (hne : items ≠ []) :
    (Path.segments items).text.toList = '/' :: ("/".intercalate items).toList := by
  induction items with
  | nil => exact absurd rfl hne
  | cons s rest ih =>
    cases rest with
    | nil => simp [Path.text]
    | cons t more =>
      have ih' := ih (List.cons_ne_nil t more)
      simp only [Path.text, List.map_cons, String.join_cons, String.toList_append] at ih' ⊢
      rw [ih', String.intercalate_cons_cons]
      simp

/-- Preparing a text of visible characters leaves it as it is. -/
theorem prepare_of_visible {s : String} (h : ∀ c ∈ s.toList, ' ' < c) : prepare s = s.toList := by
  have hkeep : ∀ c ∈ s.toList, isControlOrSpace c = false := fun c hc => by
    simpa [isControlOrSpace] using h c hc
  have hfront : s.toList.dropWhile isControlOrSpace = s.toList := by
    cases hs : s.toList with
    | nil => rfl
    | cons c rest =>
      rw [List.dropWhile_cons_of_neg (by simp [hkeep c (by simp [hs])])]
  have hback : s.toList.reverse.dropWhile isControlOrSpace = s.toList.reverse := by
    cases hs : s.toList.reverse with
    | nil => rfl
    | cons c rest =>
      have hc : c ∈ s.toList := List.mem_reverse.1 (by simp [hs])
      rw [List.dropWhile_cons_of_neg (by simp [hkeep c hc])]
  simp only [prepare, hfront, hback, List.reverse_reverse]
  refine List.filter_eq_self.2 fun c hc => ?_
  have hc' := h c hc
  have : c ≠ '\t' ∧ c ≠ '\n' ∧ c ≠ '\r' := by
    refine ⟨?_, ?_, ?_⟩ <;> rintro rfl <;> simp at hc'
  simp [this.1, this.2.1, this.2.2]

theorem splitScheme_http (rest : List Char) :
    splitScheme ("http".toList ++ ':' :: rest) = some ("http", rest) := by
  simp [splitScheme, readScheme, isSchemeChar]

theorem splitScheme_https (rest : List Char) :
    splitScheme ("https".toList ++ ':' :: rest) = some ("https", rest) := by
  simp [splitScheme, readScheme, isSchemeChar]

/-- The characters of a plain query are visible. -/
theorem visible_of_queryChars {query : Option String}
    (hquery : ∀ q ∈ query, ∀ c ∈ q.toList, EncodeSet.specialQuery.keeps c = true) :
    ∀ c ∈ queryChars query, ' ' < c := by
  intro c hc
  cases query with
  | none => cases hc
  | some q =>
    rcases List.mem_cons.1 hc with rfl | hc
    · decide
    · exact EncodeSet.space_lt_of_keeps (by decide) (hquery q rfl c hc)

/-- A URL under `http` or `https` with a written authority, plain path segments, a plain query
and no fragment, written out and parsed again, comes back with its host read again from its
text. -/
theorem parse_text_of_written {scheme : String} (hscheme : scheme = "http" ∨ scheme = "https")
    {a : Authority} (ha : a.Written scheme) {items : List String} (hne : items ≠ [])
    (hitems : ∀ s ∈ items, PlainSegment s) {query : Option String}
    (hquery : ∀ q ∈ query, ∀ c ∈ q.toList, EncodeSet.specialQuery.keeps c = true) :
    parse (Url.text ⟨scheme, some a, .segments items, query, none⟩) =
      (Host.parseSpecial a.host.text.toList).map fun h =>
        ⟨scheme, some { a with host := h }, .segments items, query, none⟩ := by
  set path := ("/".intercalate items).toList ++ queryChars query with hpath
  have htext : (Url.text ⟨scheme, some a, .segments items, query, none⟩).toList =
      scheme.toList ++ ':' :: '/' :: '/' :: (a.text.toList ++ '/' :: path) := by
    cases query <;>
      simp [Url.text, authorityText, pathAndQuery, segments_text_toList hne, hpath, queryChars]
  have hpathChars : ∀ c ∈ path, ' ' < c := by
    intro c hc
    rw [hpath, List.mem_append] at hc
    rcases hc with hc | hc
    · rw [String.toList_intercalate] at hc
      rcases mem_intercalate_singleton hc with rfl | ⟨p, hp, hcp⟩
      · decide
      · obtain ⟨s, hs, rfl⟩ := List.mem_map.1 hp
        exact (ne_of_path_keeps ((hitems s hs).keeps c hcp)).1
    · exact visible_of_queryChars hquery c hc
  have hslashes : ('/' :: '/' :: (a.text.toList ++ '/' :: path)).span
      (fun c => decide (c = '/') || decide (c = '\\')) = (['/', '/'], a.text.toList ++ '/' :: path) := by
    show (['/', '/'] ++ (a.text.toList ++ '/' :: path)).span _ = (['/', '/'], _)
    refine span_append_of_all (by simp) fun c hc => ?_
    obtain ⟨d, ds, hds⟩ := List.exists_cons_of_ne_nil (by
      rw [Authority.text_toList]; simp [ha.host.ne_nil] : a.text.toList ≠ [])
    have hcd : d = c := by simpa [hds] using hc
    subst hcd
    obtain ⟨-, h1, -, -, h4⟩ := ha.text_chars d (by simp [hds])
    simp [h1, h4]
  have hvisible : ∀ c ∈ (Url.text ⟨scheme, some a, .segments items, query, none⟩).toList,
      ' ' < c := by
    rw [htext]
    intro c hc
    simp only [List.mem_append, List.mem_cons] at hc
    rcases hc with hs | rfl | rfl | rfl | ha' | rfl | hp
    · rcases hscheme with rfl | rfl <;> simp at hs <;> rcases hs with rfl | rfl | rfl | rfl <;>
        decide
    all_goals first | decide | exact (ha.text_chars c ‹_›).1 | exact hpathChars c ‹_›
  unfold parse parseWith
  rw [prepare_of_visible hvisible, htext]
  rcases hscheme with rfl | rfl
  · simp only [splitScheme_http, hslashes]
    rw [if_neg (by decide), if_pos (by decide)]
    exact parseAuthority_written (by decide) ha hne hitems hquery
  · simp only [splitScheme_https, hslashes]
    rw [if_neg (by decide), if_pos (by decide)]
    exact parseAuthority_written (by decide) ha hne hitems hquery

end WriteAccess.Url
