import WriteAccess.Proofs.ParsedUrl
import WriteAccess.Rbac.Http

/-!
# Form-encoded pairs read back

A server reads a form-encoded query (`formPairs`) by cutting it at `&`, skipping empty pieces,
and cutting each piece at its first `=` into a name and a value, each decoded the same way
(`formDecode`): every `+` is a space, every `%XX` a byte, and the bytes are read as UTF-8.

Pairs written in the form encoding are read back exactly, whatever their texts
(`formPairs_intercalate`). The encoding writes no `&` and no `=`, so the cuts fall where the
pairs were joined; it writes `+` only for a space, since a `+` of the text is written `%2B`; and
every byte it does not keep is written `%XX`, so decoding gives back the UTF-8 bytes of the
text.
-/

namespace WriteAccess.Url

/-! ## The reader -/

/-- A character of a form-encoded text as a server reads it: `+` is a space. -/
def formChar (c : Char) : Char := if c = '+' then ' ' else c

/-- A form-encoded name or value as a server reads it. -/
def formDecode (cs : List Char) : Option String :=
  String.fromUTF8? (ByteArray.mk (decodeText (String.ofList (cs.map formChar))).toArray)

/-- One piece of a form-encoded query as a server reads it: a name up to its first `=`, and the
value after it. -/
def formPiece (piece : List Char) : Option (String × String) :=
  match piece.span (· != '=') with
  | (name, []) => (formDecode name).map fun n => (n, "")
  | (name, _ :: value) => (formDecode name).bind fun n => (formDecode value).map fun v => (n, v)

/-- A form-encoded query as a server reads it: the pieces between `&`, empty ones skipped. -/
def formPairs (query : String) : Option (List (String × String)) :=
  ((query.toList.splitOn '&').filter (!·.isEmpty)).mapM formPiece

/-! ## Bytes -/

/-- The character of a byte has the byte's code. -/
theorem toNat_ofNat_byte (b : UInt8) : (Char.ofNat b.toNat).toNat = b.toNat := by
  have hb := b.toNat_lt
  unfold Char.ofNat
  rw [dif_pos (Or.inl (by omega))]
  simp [Char.ofNatAux, Char.toNat]

/-- An ASCII character read back from its byte is itself. -/
theorem charOfByte_ascii {c : Char} (h : c.toNat < 0x80) :
    Char.ofNat (UInt8.ofNat c.toNat).toNat = c := by
  rw [toNat_byte_of_lt h, Char.ofNat_toNat]

/-- A hex digit is read back as its value. -/
theorem hexValue?_hexDigit : ∀ n, n < 16 → hexValue? (hexDigit n) = some n
  | 0, _ | 1, _ | 2, _ | 3, _ | 4, _ | 5, _ | 6, _ | 7, _ | 8, _ | 9, _ | 10, _ | 11, _ | 12, _
  | 13, _ | 14, _ | 15, _ => by decide
  | _ + 16, h => absurd h (by omega)

/-- A byte other than `%` is left as it is by percent-decoding. -/
theorem decodeBytes_cons_of_ne {b : UInt8} (hb : b ≠ 0x25) :
    ∀ rest : List UInt8, decodeBytes (b :: rest) = b :: decodeBytes rest
  | [] => by simp [decodeBytes]
  | [_] => by simp [decodeBytes]
  | _ :: _ :: _ => by rw [decodeBytes, if_neg (by simpa using hb)]

/-- A byte written `%XX` is decoded back. -/
theorem decodeBytes_percentByte (b : UInt8) (rest : List UInt8) :
    decodeBytes ((percentByte b).toList.map (fun c => UInt8.ofNat c.toNat) ++ rest) =
      b :: decodeBytes rest := by
  have hb := b.toNat_lt
  have hhi : b.toNat / 16 < 16 := by omega
  have hlo : b.toNat % 16 < 16 := Nat.mod_lt _ (by decide)
  have hascii : ∀ {n}, n < 16 → (hexDigit n).toNat < 0x80 := fun hn => by
    rw [toNat_hexDigit hn]
    split <;> omega
  simp only [percentByte, String.toList_ofList, List.map_cons, List.map_nil, List.cons_append,
    List.nil_append]
  rw [decodeBytes, if_pos (by decide), charOfByte_ascii (hascii hhi),
    charOfByte_ascii (hascii hlo), hexValue?_hexDigit _ hhi, hexValue?_hexDigit _ hlo]
  simp only [List.cons.injEq, and_true]
  rw [show b.toNat / 16 * 16 + b.toNat % 16 = b.toNat by omega, UInt8.ofNat_toNat]

/-! ## The encoding of one byte -/

/-- A character the form encoding keeps is an ASCII letter or digit or one of `*-._`: ASCII and
none of `+`, `%`, `&`, `=`. -/
theorem formKept_bounds {c : Char}
    (h : (c.isAlphanum || c = '*' || c = '-' || c = '.' || c = '_') = true) :
    c.toNat < 0x80 ∧ c.toNat ≠ 0x2B ∧ c.toNat ≠ 0x25 ∧ c.toNat ≠ 0x26 ∧ c.toNat ≠ 0x3D := by
  simp only [Char.isAlphanum, Char.isAlpha, Char.isUpper, Char.isLower, Char.isDigit,
    Bool.or_eq_true, Bool.and_eq_true, decide_eq_true_eq, UInt32.le_iff_toNat_le] at h
  have hcode : c.toNat = c.val.toNat := rfl
  rcases h with (((((h | h) | h) | rfl) | rfl) | rfl) | rfl
  all_goals first
    | decide
    | (simp only [Char.reduceVal, UInt32.reduceToNat] at h
       omega)

/-- A hex digit is ASCII and none of `+`, `&`, `=`. -/
theorem hexDigit_bounds {n : Nat} (hn : n < 16) :
    (hexDigit n).toNat < 0x80 ∧ (hexDigit n).toNat ≠ 0x2B ∧ (hexDigit n).toNat ≠ 0x26 ∧
      (hexDigit n).toNat ≠ 0x3D := by
  rw [toNat_hexDigit hn]
  split <;> omega

/-- The characters the form encoding writes for a byte: ASCII, and neither `&` nor `=`; a `+`
only for the space. -/
theorem mem_formByte {b : UInt8} {c : Char} (hc : c ∈ (formByte b).toList) :
    c.toNat < 0x80 ∧ c.toNat ≠ 0x26 ∧ c.toNat ≠ 0x3D ∧ (c = '+' → b = 32) := by
  unfold formByte at hc
  dsimp only at hc
  split at hc
  · rename_i hkeep
    obtain ⟨hlt, hplus, -, hamp, heq⟩ := formKept_bounds hkeep
    simp only [String.toList_singleton, List.mem_singleton] at hc
    subst hc
    exact ⟨hlt, hamp, heq, fun h => absurd (congrArg Char.toNat h) hplus⟩
  · split at hc
    · rename_i hspace
      rw [show "+".toList = ['+'] from rfl, List.mem_singleton] at hc
      subst hc
      refine ⟨by decide, by decide, by decide, fun _ => ?_⟩
      have := congrArg Char.toNat hspace
      rw [toNat_ofNat_byte] at this
      exact UInt8.toNat_inj.1 this
    · simp only [percentByte, String.toList_ofList, List.mem_cons, List.not_mem_nil,
        or_false] at hc
      have hb := b.toNat_lt
      rcases hc with rfl | rfl | rfl
      · exact ⟨by decide, by decide, by decide, fun h => absurd h (by decide)⟩
      · obtain ⟨hlt, hplus, hamp, heq⟩ := hexDigit_bounds (show b.toNat / 16 < 16 by omega)
        exact ⟨hlt, hamp, heq, fun h => absurd (congrArg Char.toNat h) hplus⟩
      · obtain ⟨hlt, hplus, hamp, heq⟩ := hexDigit_bounds (show b.toNat % 16 < 16 by omega)
        exact ⟨hlt, hamp, heq, fun h => absurd (congrArg Char.toNat h) hplus⟩

/-- The form encoding of a byte, read by a server, is decoded back to the byte. -/
theorem decodeBytes_formByte (b : UInt8) (rest : List UInt8) :
    decodeBytes (((formByte b).toList.map formChar).map (fun c => UInt8.ofNat c.toNat) ++ rest) =
      b :: decodeBytes rest := by
  have hbyte : UInt8.ofNat (Char.ofNat b.toNat).toNat = b := by
    rw [toNat_ofNat_byte, UInt8.ofNat_toNat]
  unfold formByte
  dsimp only
  split
  · -- a kept character stands for itself
    rename_i hkeep
    obtain ⟨-, hplus, hpercent, -, -⟩ := formKept_bounds hkeep
    have hchar : formChar (Char.ofNat b.toNat) = Char.ofNat b.toNat :=
      if_neg fun h => hplus (by rw [h]; rfl)
    simp only [String.toList_singleton, List.map_cons, List.map_nil, hchar, hbyte,
      List.cons_append, List.nil_append]
    refine decodeBytes_cons_of_ne (fun h => hpercent ?_) rest
    rw [← toNat_ofNat_byte, ← hbyte, h]
    rfl
  · split
    · -- the space is written `+` and read back as the space
      rename_i hspace
      have hb : b = 32 := by
        have := congrArg Char.toNat hspace
        rw [toNat_ofNat_byte] at this
        exact UInt8.toNat_inj.1 this
      subst hb
      rw [show "+".toList = ['+'] from rfl]
      exact decodeBytes_cons_of_ne (by decide) rest
    · -- any other byte is written `%XX`, which holds no `+`
      have hid : ∀ c ∈ (percentByte b).toList, formChar c = c := by
        intro c hc
        refine if_neg fun hplus => ?_
        have hb := b.toNat_lt
        simp only [percentByte, String.toList_ofList, List.mem_cons, List.not_mem_nil,
          or_false] at hc
        rcases hc with rfl | rfl | rfl
        · exact absurd hplus (by decide)
        · exact (hexDigit_bounds (show b.toNat / 16 < 16 by omega)).2.1
            (by rw [hplus]; rfl)
        · exact (hexDigit_bounds (show b.toNat % 16 < 16 by omega)).2.1
            (by rw [hplus]; rfl)
      rw [List.map_congr_left hid, List.map_id', decodeBytes_percentByte]

/-- The form encoding of bytes, read by a server, is decoded back to the bytes. -/
theorem decodeBytes_formBytes : ∀ (bs rest : List UInt8),
    decodeBytes (((String.join (bs.map formByte)).toList.map formChar).map
      (fun c => UInt8.ofNat c.toNat) ++ rest) = bs ++ decodeBytes rest
  | [], rest => by simp
  | b :: bs, rest => by
    rw [List.map_cons, String.join_cons, String.toList_append, List.map_append, List.map_append,
      List.append_assoc, decodeBytes_formByte, decodeBytes_formBytes bs rest, List.cons_append]

/-- The characters of a form-encoded text: ASCII, neither `&` nor `=`. -/
theorem mem_formEncode {s : String} {c : Char} (hc : c ∈ (formEncode s).toList) :
    c.toNat < 0x80 ∧ c ≠ '&' ∧ c ≠ '=' := by
  rw [formEncode, String.toList_join] at hc
  obtain ⟨piece, hpiece, hc⟩ := List.mem_flatMap.1 hc
  obtain ⟨b, -, rfl⟩ := List.mem_map.1 hpiece
  obtain ⟨hlt, hamp, heq, -⟩ := mem_formByte hc
  exact ⟨hlt, fun h => hamp (by rw [h]; rfl), fun h => heq (by rw [h]; rfl)⟩

/-- A text in the form encoding, read by a server, is the text. -/
theorem formDecode_formEncode (s : String) : formDecode (formEncode s).toList = some s := by
  have hascii : ∀ c ∈ (formEncode s).toList.map formChar, c.toNat < 0x80 := by
    intro c hc
    obtain ⟨x, hx, rfl⟩ := List.mem_map.1 hc
    unfold formChar
    split
    · decide
    · exact (mem_formEncode hx).1
  have hbytes := decodeBytes_formBytes s.toUTF8.toList []
  rw [List.append_nil, show decodeBytes [] = [] by rw [decodeBytes], List.append_nil] at hbytes
  unfold formDecode decodeText
  rw [toUTF8_toList_of_ascii (by simpa using hascii), String.toList_ofList]
  unfold formEncode
  rw [hbytes, fromUTF8?_toUTF8_toList]

/-! ## Pairs -/

/-- One pair in the form encoding, as characters. -/
theorem formPair_toList (pair : String × String) :
    (formPair pair).toList = (formEncode pair.1).toList ++ '=' :: (formEncode pair.2).toList := by
  simp [formPair]

/-- One pair in the form encoding, read by a server, is the pair. -/
theorem formPiece_formPair (pair : String × String) :
    formPiece (formPair pair).toList = some pair := by
  have hname : ∀ c ∈ (formEncode pair.1).toList, (c != '=') = true := fun c hc => by
    simpa using (mem_formEncode hc).2.2
  rw [formPair_toList, formPiece, span_append_of_all hname (by simp)]
  simp [formDecode_formEncode]

/-- Pairs joined by `&` in the form encoding, read by a server, are the pairs, whatever their
texts. -/
theorem formPairs_intercalate (pairs : List (String × String)) :
    formPairs ("&".intercalate (pairs.map formPair)) = some pairs := by
  cases pairs with
  | nil => rfl
  | cons first rest =>
    have hsplit : ("&".intercalate ((first :: rest).map formPair)).toList.splitOn '&' =
        (first :: rest).map fun pair => (formPair pair).toList := by
      rw [String.toList_intercalate, List.map_map]
      refine List.splitOn_intercalate '&' (fun piece hpiece hamp => ?_) (by simp)
      obtain ⟨pair, -, rfl⟩ := List.mem_map.1 hpiece
      simp only [Function.comp_apply, formPair_toList, List.mem_append, List.mem_cons] at hamp
      rcases hamp with hamp | hamp | hamp
      · exact (mem_formEncode hamp).2.1 rfl
      · cases hamp
      · exact (mem_formEncode hamp).2.1 rfl
    have hfilter : ((first :: rest).map fun pair => (formPair pair).toList).filter
        (!·.isEmpty) = (first :: rest).map fun pair => (formPair pair).toList := by
      refine List.filter_eq_self.2 fun piece hpiece => ?_
      obtain ⟨pair, -, rfl⟩ := List.mem_map.1 hpiece
      simp [formPair_toList]
    have hread := mapM_eq_some_map (f := formPiece ∘ fun pair => (formPair pair).toList) (g := id)
      (l := first :: rest) fun pair _ => formPiece_formPair pair
    rw [List.map_id] at hread
    rwa [formPairs, hsplit, hfilter, List.mapM_map]

end WriteAccess.Url
