import WriteAccess.Credential.TrustedKeys
import WriteAccess.Proofs.PermissionText

/-!
# Trusted keys from a comma-separated listing

A listing is cut at every comma; each piece is trimmed of blanks (the characters with the Unicode
`White_Space` property) at both ends, and the pieces left empty are dropped. A presented key is
trusted exactly when it is one of the trimmed pieces, compared code point for code point, and the
number of keys is the number of distinct such pieces.

So every trusted key is non-empty, holds no comma and has no blank at either end, and listing the
trusted keys again, joined by commas in any order and with any repeats, gives the same key set.
-/

namespace WriteAccess

/-! ## Trimming blanks -/

namespace Text

theorem toList_trimBlanks (s : String) :
    (trimBlanks s).toList = (s.toList.dropWhile isBlank).rdropWhile isBlank := by
  simp [trimBlanks, dropBlanks, List.rdropWhile, String.toList_ofList]

/-- Trimming takes away a blank prefix and a blank suffix and leaves a text that starts and ends
with a character that is not blank, or nothing. -/
theorem trimBlanks_spec (s : String) :
    ∃ pre post, s.toList = pre ++ (trimBlanks s).toList ++ post ∧ (∀ c ∈ pre, isBlank c) ∧
      (∀ c ∈ post, isBlank c) ∧ (∀ c ∈ (trimBlanks s).toList.head?, isBlank c = false) ∧
      (∀ c ∈ (trimBlanks s).toList.getLast?, isBlank c = false) := by
  rw [toList_trimBlanks]
  set inner := s.toList.dropWhile isBlank
  refine ⟨s.toList.takeWhile isBlank, inner.rtakeWhile isBlank, ?_, fun c hc => ?_,
    fun c hc => List.mem_rtakeWhile_imp hc, fun c hc => ?_, fun c hc => ?_⟩
  · rw [List.append_assoc, List.rdropWhile_append_rtakeWhile, List.takeWhile_append_dropWhile]
  · exact List.mem_takeWhile_imp hc
  · -- the first character left is the first one of `inner`, which is not blank
    have hne : inner.rdropWhile isBlank ≠ [] := by rintro h; simp [h] at hc
    have hfirst := List.rdropWhile_prefix (p := isBlank) (l := inner) |>.head hne
    rw [List.head?_eq_some_head hne, Option.mem_some_iff] at hc
    rw [← hc, hfirst]
    exact List.head_dropWhile_not isBlank _
  · have hne : inner.rdropWhile isBlank ≠ [] := by rintro h; simp [h] at hc
    have hlast := List.rdropWhile_last_not isBlank inner hne
    rw [List.getLast?_eq_some_getLast hne, Option.mem_some_iff] at hc
    simpa [← hc] using hlast

/-- A trimmed text sits inside the text it was trimmed from. -/
theorem toList_trimBlanks_infix (s : String) : (trimBlanks s).toList <:+: s.toList := by
  obtain ⟨pre, post, hs, -⟩ := trimBlanks_spec s
  exact ⟨pre, post, hs.symm⟩

/-- Trimming a trimmed text changes nothing. -/
theorem trimBlanks_trimBlanks (s : String) : trimBlanks (trimBlanks s) = trimBlanks s := by
  obtain ⟨-, -, -, -, -, hhead, -⟩ := trimBlanks_spec s
  rw [← String.toList_inj, toList_trimBlanks (trimBlanks s)]
  -- the trimmed text starts with a character that is not blank, so nothing more is dropped
  have hdrop : (trimBlanks s).toList.dropWhile isBlank = (trimBlanks s).toList := by
    cases h : (trimBlanks s).toList with
    | nil => rfl
    | cons a rest => simp [List.dropWhile_cons_of_neg, hhead a (by simp [h])]
  rw [hdrop, toList_trimBlanks, List.rdropWhile_idempotent]

end Text

/-! ## Key sets -/

namespace TrustedKeys

theorem trusts_iff_mem {ks : TrustedKeys} {k : String} : ks.trusts k = true ↔ k ∈ ks.keys := by
  simp [trusts]

theorem mem_keys_insert {ks : TrustedKeys} {k x : String} :
    k ∈ (ks.insert x).keys ↔ k ∈ ks.keys ∨ k = x := by
  unfold insert
  split
  · next hx =>
    have hx : x ∈ ks.keys := by simpa using hx
    constructor
    · exact Or.inl
    · rintro (h | rfl) <;> assumption
  · simp

theorem nodup_keys_insert {ks : TrustedKeys} (x : String) (h : ks.keys.Nodup) :
    (ks.insert x).keys.Nodup := by
  unfold insert
  split
  · exact h
  · next hx =>
    have hx : x ∉ ks.keys := by simpa using hx
    simpa [List.nodup_append, h] using fun y hy => (ne_of_mem_of_not_mem hy hx)

/-- Adding the keys of a list one by one: the keys held, then those of the list. -/
theorem mem_keys_foldl_insert {k : String} :
    ∀ (xs : List String) (acc : TrustedKeys), k ∈ (xs.foldl insert acc).keys ↔ k ∈ acc.keys ∨ k ∈ xs
  | [], acc => by simp
  | x :: xs, acc => by
    rw [List.foldl_cons, mem_keys_foldl_insert xs, mem_keys_insert, List.mem_cons]
    tauto

theorem nodup_keys_foldl_insert :
    ∀ (xs : List String) {acc : TrustedKeys}, acc.keys.Nodup → (xs.foldl insert acc).keys.Nodup
  | [], _, h => h
  | x :: xs, _, h => nodup_keys_foldl_insert xs (nodup_keys_insert x h)

@[simp] theorem mem_keys_ofList {k : String} {xs : List String} : k ∈ (ofList xs).keys ↔ k ∈ xs := by
  simp [ofList, mem_keys_foldl_insert, empty]

theorem nodup_keys_ofList (xs : List String) : (ofList xs).keys.Nodup :=
  nodup_keys_foldl_insert xs List.nodup_nil

/-- A set built from a list holds each of its keys once. -/
theorem size_ofList (xs : List String) : (ofList xs).size = xs.toFinset.card := by
  rw [size, ← List.toFinset_card_of_nodup (nodup_keys_ofList xs)]
  congr 1
  ext k
  simp

/-! ## Reading a listing -/

theorem mem_csvEntries {raw k : String} :
    k ∈ csvEntries raw ↔
      k ≠ "" ∧ ∃ seg ∈ raw.toList.splitOn ',', k = Text.trimBlanks (String.ofList seg) := by
  simp only [csvEntries, csvPieces, List.mem_filter, List.mem_map, decide_eq_true_eq]
  constructor
  · rintro ⟨⟨p, ⟨seg, hseg, rfl⟩, rfl⟩, hk⟩
    exact ⟨hk, seg, hseg, rfl⟩
  · rintro ⟨hk, seg, hseg, rfl⟩
    exact ⟨⟨_, ⟨seg, hseg, rfl⟩, rfl⟩, hk⟩

/-- A key is trusted exactly when it is a non-empty trimmed piece of the listing. -/
theorem trusts_ofCsv_iff {raw k : String} :
    (ofCsv raw).trusts k = true ↔
      k ≠ "" ∧ ∃ seg ∈ raw.toList.splitOn ',', k = Text.trimBlanks (String.ofList seg) := by
  rw [trusts_iff_mem, ofCsv, mem_keys_ofList, mem_csvEntries]

/-- A trusted key is not empty, holds no comma and is already trimmed. -/
theorem trusted_key_form {raw k : String} (h : (ofCsv raw).trusts k = true) :
    k ≠ "" ∧ ',' ∉ k.toList ∧ Text.trimBlanks k = k := by
  obtain ⟨hk, seg, hseg, rfl⟩ := trusts_ofCsv_iff.1 h
  have hcomma : ',' ∉ seg := not_mem_of_mem_splitOn hseg
  refine ⟨hk, fun hc => hcomma ?_, Text.trimBlanks_trimBlanks _⟩
  simpa [String.toList_ofList] using (Text.toList_trimBlanks_infix (String.ofList seg)).subset hc

/-- Keys joined by commas, none holding a comma, are cut back into those keys. -/
theorem csvPieces_intercalate {keys : List String} (hne : keys ≠ [])
    (h : ∀ k ∈ keys, ',' ∉ k.toList) : csvPieces (",".intercalate keys) = keys := by
  have hsplit : (",".intercalate keys).toList.splitOn ',' = keys.map String.toList := by
    rw [String.toList_intercalate]
    exact List.splitOn_intercalate ',' (by simpa using h) (by simpa using hne)
  rw [csvPieces, hsplit, List.map_map]
  simp [Function.comp_def, String.ofList_toList]

/-- Listing keys that could each be trusted gives exactly those keys. -/
theorem ofCsv_intercalate {keys : List String}
    (h : ∀ k ∈ keys, k ≠ "" ∧ ',' ∉ k.toList ∧ Text.trimBlanks k = k) :
    ofCsv (",".intercalate keys) = ofList keys := by
  by_cases hnil : keys = []
  · subst hnil
    rfl
  · have hentries : csvEntries (",".intercalate keys) = keys := by
      rw [csvEntries, csvPieces_intercalate hnil fun k hk => (h k hk).2.1]
      -- every key is its own trimming and none is empty, so nothing changes or is dropped
      rw [List.map_congr_left (fun k hk => (h k hk).2.2), List.map_id']
      exact List.filter_eq_self.2 fun k hk => by simpa using (h k hk).1
    rw [ofCsv, hentries]

/-- Two key sets that trust the same keys have the same size. -/
theorem size_eq_of_trusts_iff {ks ks' : TrustedKeys} (hn : ks.keys.Nodup) (hn' : ks'.keys.Nodup)
    (h : ∀ k, ks.trusts k = true ↔ ks'.trusts k = true) : ks.size = ks'.size :=
  ((List.perm_ext_iff_of_nodup hn hn').2 fun k => by
    simpa only [trusts_iff_mem] using h k).length_eq


/-- The number of keys is the number of distinct non-empty trimmed pieces. -/
theorem size_ofCsv (raw : String) :
    (ofCsv raw).size =
      (((raw.toList.splitOn ',').map fun seg => Text.trimBlanks (String.ofList seg)).toFinset.filter
        (· ≠ "")).card := by
  rw [ofCsv, size_ofList]
  congr 1
  ext k
  simp only [List.mem_toFinset, mem_csvEntries, Finset.mem_filter, List.mem_map]
  constructor
  · rintro ⟨hk, seg, hseg, rfl⟩
    exact ⟨⟨seg, hseg, rfl⟩, hk⟩
  · rintro ⟨⟨seg, hseg, rfl⟩, hk⟩
    exact ⟨hk, seg, hseg, rfl⟩

/-- Listing the trusted keys again, in any order and with any repeats, gives the same key set. -/
theorem ofCsv_relisted {raw : String} {listing : List String}
    (h : ∀ k, k ∈ listing ↔ (ofCsv raw).trusts k = true) :
    (∀ k, (ofCsv (",".intercalate listing)).trusts k = (ofCsv raw).trusts k) ∧
      (ofCsv (",".intercalate listing)).size = (ofCsv raw).size := by
  have hrelisted : ofCsv (",".intercalate listing) = ofList listing :=
    ofCsv_intercalate fun k hk => trusted_key_form ((h k).1 hk)
  have htrusts : ∀ k, (ofCsv (",".intercalate listing)).trusts k = true ↔
      (ofCsv raw).trusts k = true := fun k => by
    rw [hrelisted, trusts_iff_mem, mem_keys_ofList, h]
  refine ⟨fun k => Bool.eq_iff_iff.2 (htrusts k), ?_⟩
  exact size_eq_of_trusts_iff (by rw [hrelisted]; exact nodup_keys_ofList listing)
    (nodup_keys_ofList _) htrusts

/-- Trusted keys read from a comma-separated listing. A key is trusted exactly when it is a piece
of the listing between commas trimmed of blanks at both ends, and not empty; trimming takes away
the longest blank prefix and suffix, the blanks being the characters with the Unicode
`White_Space` property (the next line, the no-break space, the Ogham space mark, the spaces from
en quad to hair space, the line and paragraph separators, the narrow no-break space, the medium
mathematical space and the ideographic space among them, but neither the zero-width space nor the
byte order mark); the number of keys is the number of distinct such pieces. Every trusted key is
non-empty, comma-free and trimmed, and any comma-joined listing of the trusted keys, in any order,
trusts the same keys and counts as many. -/
theorem ofCsv_key_set :
    (∀ raw k : String, (ofCsv raw).trusts k = true ↔
      k ≠ "" ∧ ∃ seg ∈ raw.toList.splitOn ',', k = Text.trimBlanks (String.ofList seg)) ∧
    (∀ s : String, ∃ pre post, s.toList = pre ++ (Text.trimBlanks s).toList ++ post ∧
      (∀ c ∈ pre, Text.isBlank c) ∧ (∀ c ∈ post, Text.isBlank c) ∧
      (∀ c ∈ (Text.trimBlanks s).toList.head?, Text.isBlank c = false) ∧
      (∀ c ∈ (Text.trimBlanks s).toList.getLast?, Text.isBlank c = false)) ∧
    ((∀ n ∈ [0x85, 0xA0, 0x1680, 0x2028, 0x2029, 0x202F, 0x205F, 0x3000] ++
        (List.range 11).map (0x2000 + ·), Text.isBlank (Char.ofNat n) = true) ∧
      Text.isBlank '\u200B' = false ∧ Text.isBlank '\uFEFF' = false) ∧
    (∀ raw : String, (ofCsv raw).size =
      (((raw.toList.splitOn ',').map fun seg => Text.trimBlanks (String.ofList seg)).toFinset.filter
        (· ≠ "")).card) ∧
    (∀ raw k : String, (ofCsv raw).trusts k = true →
      k ≠ "" ∧ ',' ∉ k.toList ∧ Text.trimBlanks k = k) ∧
    (∀ (raw : String) (listing : List String), (∀ k, k ∈ listing ↔ (ofCsv raw).trusts k = true) →
      (∀ k, (ofCsv (",".intercalate listing)).trusts k = (ofCsv raw).trusts k) ∧
        (ofCsv (",".intercalate listing)).size = (ofCsv raw).size) :=
  ⟨fun _ _ => trusts_ofCsv_iff, Text.trimBlanks_spec, by decide, size_ofCsv,
    fun _ _ => trusted_key_form, fun _ _ => ofCsv_relisted⟩

end TrustedKeys

end WriteAccess
