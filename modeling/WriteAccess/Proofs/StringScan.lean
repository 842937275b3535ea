import WriteAccess.Proofs.ScanSteps
import WriteAccess.Proofs.DomainText

/-!
# The strings the reader accepts

After the opening quote of a string the reader scans pieces up to the closing quote: characters
standing for themselves, one-letter escapes, and `\u` escapes. A string that is read decodes its
escapes (a surrogate only as the leading half of a pair) and must spell valid UTF-8; a string that
is skipped takes any four hex digits after `\u` and gathers nothing.

Both are exactly the string texts of the grammar: a read string is `StringText`
(`stringText_of_ok_readString`, `ok_readString_of_stringText`) and a skipped one `StringForm`
(`stringForm_of_ok_ignoreString`, `ok_ignoreString_of_stringForm`). The scan is taken one piece
at a time (`scanString_succ_sound`, `scanString_piece`), and its runs are the lists of pieces
(`scanString_sound`, `scanString_complete`).
-/

open WriteAccess.Json.Text

namespace WriteAccess.Json.Text.StringPiece

/-- A piece a scan of a string takes: a decoded piece when the scan keeps the bytes, a skipped
one otherwise. -/
def Scanned (keep : Bool) (p : StringPiece) : Prop := if keep then p.Valid else p.Skippable

/-- The bytes a scan of a string gathers for a piece. -/
def gathered (keep : Bool) (p : StringPiece) : List UInt8 := if keep then p.bytes else []

@[simp] theorem scanned_true {p : StringPiece} : p.Scanned true ↔ p.Valid := by
  simp [Scanned]

@[simp] theorem scanned_false {p : StringPiece} : p.Scanned false ↔ p.Skippable := by
  simp [Scanned]

@[simp] theorem gathered_true : gathered true = bytes := rfl

@[simp] theorem gathered_false : gathered false = fun _ => [] := rfl

end WriteAccess.Json.Text.StringPiece

namespace WriteAccess.Json.Reader

/-- The first four bytes from index `j`, when the text has them, are its first four characters. -/
theorem rem_eq_four {t : ByteArray} {j : Nat} (h : j + 4 ≤ t.size) :
    ∃ a b c d rest, rem t j = [a, b, c, d] ++ rest ∧ byteAt t j = some a ∧
      byteAt t (j + 1) = some b ∧ byteAt t (j + 2) = some c ∧ byteAt t (j + 3) = some d := by
  have hlen : 4 ≤ (rem t j).length := by
    simp [rem, length_chars]
    omega
  rcases hr : rem t j with _ | ⟨a, _ | ⟨b, _ | ⟨c, _ | ⟨d, rest⟩⟩⟩⟩ <;> rw [hr] at hlen <;>
    simp at hlen
  have h1 := rem_succ hr
  have h2 := rem_succ h1
  have h3 := rem_succ h2
  refine ⟨a, b, c, d, rest, rfl, ?_, ?_, ?_, ?_⟩
  · rw [byteAt_eq_head, hr]
    rfl
  · rw [byteAt_eq_head, h1]
    rfl
  · rw [byteAt_eq_head, h2]
    rfl
  · rw [byteAt_eq_head, h3]
    rfl

/-- The value of four hex digits, the first one highest. -/
theorem hexNumber_four {a b c d : Char} {va vb vc vd : Nat} (ha : hexValue a = some va)
    (hb : hexValue b = some vb) (hc : hexValue c = some vc) (hd : hexValue d = some vd) :
    hexNumber [a, b, c, d] = some (((va * 16 + vb) * 16 + vc) * 16 + vd) := by
  simp [hexNumber, ha, hb, hc, hd]

/-- Four hex digits have a value. -/
theorem hexNumber_of_isHex {hex : List Char} (hhex : StringPiece.IsHex hex) :
    ∃ n, hexNumber hex = some n := by
  obtain ⟨hlen, hall⟩ := hhex
  rcases hex with _ | ⟨a, _ | ⟨b, _ | ⟨c, _ | ⟨d, _ | ⟨e, rest⟩⟩⟩⟩⟩ <;> simp at hlen
  obtain ⟨va, h1⟩ := Option.isSome_iff_exists.1 (hall a (by simp))
  obtain ⟨vb, h2⟩ := Option.isSome_iff_exists.1 (hall b (by simp))
  obtain ⟨vc, h3⟩ := Option.isSome_iff_exists.1 (hall c (by simp))
  obtain ⟨vd, h4⟩ := Option.isSome_iff_exists.1 (hall d (by simp))
  exact ⟨_, hexNumber_four h1 h2 h3 h4⟩

/-- Four hex digits are read from index `j` exactly when the text there starts with them. -/
theorem hexQuad_eq_ok_iff {t : ByteArray} {j n j' : Nat} :
    hexQuad t j = .ok (n, j') ↔
      ∃ hex rest, rem t j = hex ++ rest ∧ StringPiece.IsHex hex ∧ hexNumber hex = some n ∧
        j' = j + 4 := by
  unfold hexQuad
  split
  · next hsize =>
    obtain ⟨a, b, c, d, rest, hr, ha, hb, hc, hd⟩ := rem_eq_four hsize
    simp only [List.map_cons, List.map_nil, ha, hb, hc, hd, Option.bind_some]
    constructor
    · intro h
      split at h
      · next va vb vc vd heq =>
        simp only [List.cons.injEq, and_true] at heq
        obtain ⟨h1, h2, h3, h4⟩ := heq
        cases h
        refine ⟨[a, b, c, d], rest, hr, ⟨rfl, ?_⟩, hexNumber_four h1 h2 h3 h4, rfl⟩
        simp [h1, h2, h3, h4]
      · cases h
    · rintro ⟨hex, rest', hr', ⟨hlen, hhex⟩, hn, rfl⟩
      rw [hr] at hr'
      obtain ⟨rfl, -⟩ := List.append_inj hr'.symm hlen
      obtain ⟨va, h1⟩ := Option.isSome_iff_exists.1 (hhex a (by simp))
      obtain ⟨vb, h2⟩ := Option.isSome_iff_exists.1 (hhex b (by simp))
      obtain ⟨vc, h3⟩ := Option.isSome_iff_exists.1 (hhex c (by simp))
      obtain ⟨vd, h4⟩ := Option.isSome_iff_exists.1 (hhex d (by simp))
      rw [hexNumber_four h1 h2 h3 h4, Option.some.injEq] at hn
      subst hn
      simp [h1, h2, h3, h4]
  · next hsize =>
    simp only [reduceCtorEq, false_iff, not_exists, not_and]
    intro hex rest hr hhex
    have hlen := congrArg List.length hr
    simp [rem, length_chars, hhex.1] at hlen
    omega


theorem bytes_unicode {hex : List Char} {n : Nat} (h : hexNumber hex = some n) :
    (StringPiece.unicode hex).bytes = (utf8Bytes n).data.toList := by
  rw [StringPiece.bytes, h, Option.map_some, Option.getD_some,
    WriteAccess.Url.byteArray_toList_eq]

theorem bytes_pair {lead trail : List Char} {n₁ n₂ : Nat} (h₁ : hexNumber lead = some n₁)
    (h₂ : hexNumber trail = some n₂) :
    (StringPiece.pair lead trail).bytes =
      (utf8Bytes (StringPiece.pairPoint n₁ n₂)).data.toList := by
  rw [StringPiece.bytes, h₁, h₂, Option.bind_some, Option.map_some, Option.getD_some,
    WriteAccess.Url.byteArray_toList_eq]

/-- A `\u` escape that the reader decodes, read after its `\u`: a code point that is not a
surrogate, or a leading surrogate followed at once by an escaped trailing one. -/
theorem unicodeEscape_sound {t : ByteArray} {i j : Nat} {bytes : ByteArray}
    (hi : rem t i = '\\' :: 'u' :: rem t (i + 2))
    (h : unicodeEscape t (i + 2) = .ok (bytes, j)) :
    ∃ (p : StringPiece) (rest : List Char), p.Valid ∧ rem t i = p.text ++ rest ∧
      bytes.data.toList = p.bytes ∧ j = i + p.text.length := by
  unfold unicodeEscape at h
  rcases hq : hexQuad t (i + 2) with e | ⟨n, j1⟩
  · simp [hq, bind, Except.bind] at h
  obtain ⟨hex, rest, hr, hhex, hn, rfl⟩ := hexQuad_eq_ok_iff.1 hq
  simp only [hq, bind, Except.bind] at h
  by_cases htrail : 0xDC00 ≤ n ∧ n ≤ 0xDFFF
  · simp [htrail, throw, throwThe, MonadExceptOf.throw] at h
  rw [if_neg htrail] at h
  by_cases hplain : n < 0xD800 ∨ 0xDBFF < n
  · rw [if_pos hplain] at h
    simp only [pure, Except.pure, Except.ok.injEq, Prod.mk.injEq] at h
    obtain ⟨rfl, rfl⟩ := h
    refine ⟨.unicode hex, rest, .unicode hhex hn (by omega), by rw [hi, hr]; rfl,
      (bytes_unicode hn).symm, by simp [StringPiece.text, hhex.1]⟩
  rw [if_neg hplain] at h
  -- a leading surrogate: an escaped trailing one must follow at once
  have hrest : rem t (i + 2 + 4) = rest := by
    rw [← hhex.1]
    exact rem_add hr
  rw [byteAt_eq_head, hrest, byteAt_eq_head] at h
  rcases rest with _ | ⟨c, rest⟩
  · simp [throw, throwThe, MonadExceptOf.throw] at h
  rw [rem_succ hrest] at h
  simp only [List.head?_cons] at h
  split at h
  · next heq => simp at heq
  · next heq =>
    -- the trailing escape
    obtain rfl : c = '\\' := Option.some.inj heq
    rcases rest with _ | ⟨d, rest⟩
    · simp at h
    simp only [List.head?_cons] at h
    split at h
    · next heq => simp at heq
    · next heq =>
      obtain rfl : d = 'u' := Option.some.inj heq
      rcases hq2 : hexQuad t (i + 2 + 4 + 2) with e | ⟨n₂, j₂⟩
      · simp [hq2] at h
      obtain ⟨trail, rest', hr2, htrail', hn₂, rfl⟩ := hexQuad_eq_ok_iff.1 hq2
      simp only [hq2] at h
      by_cases hlone : n₂ < 0xDC00 ∨ 0xDFFF < n₂
      · simp [hlone] at h
      rw [if_neg hlone] at h
      simp only [pure, Except.pure, Except.ok.injEq, Prod.mk.injEq] at h
      obtain ⟨rfl, rfl⟩ := h
      have hr2' : rem t (i + 2 + 4 + 2) = rest := rem_succ (rem_succ hrest)
      have hbytes := bytes_pair hn hn₂
      unfold StringPiece.pairPoint at hbytes
      refine ⟨.pair hex trail, rest', .pair hhex htrail' hn hn₂ (by omega) (by omega) (by omega)
        (by omega), ?_, hbytes.symm, ?_⟩
      · rw [hi, hr, ← hr2', hr2]
        simp [StringPiece.text]
      · simp [StringPiece.text, hhex.1, htrail'.1]
    · simp at h
  · simp [throw, throwThe, MonadExceptOf.throw] at h


/-- A `\u` escape of a code point that is not a surrogate is decoded to its UTF-8 bytes. -/
theorem unicodeEscape_of_plain {t : ByteArray} {j n : Nat} {hex rest : List Char}
    (hr : rem t j = hex ++ rest) (hhex : StringPiece.IsHex hex) (hn : hexNumber hex = some n)
    (hv : n < 0xD800 ∨ 0xDFFF < n) :
    unicodeEscape t j = .ok (utf8Bytes n, j + 4) := by
  unfold unicodeEscape
  rw [hexQuad_eq_ok_iff.2 ⟨hex, rest, hr, hhex, hn, rfl⟩]
  have htrail : ¬(0xDC00 ≤ n ∧ n ≤ 0xDFFF) := by omega
  have hplain : n < 0xD800 ∨ 0xDBFF < n := by omega
  simp only [bind, Except.bind, htrail, hplain, if_false, if_true]
  rfl

/-- A surrogate pair of `\u` escapes is decoded to the UTF-8 bytes of the code point they
stand for. -/
theorem unicodeEscape_of_pair {t : ByteArray} {j n₁ n₂ : Nat} {lead trail rest : List Char}
    (hr : rem t j = lead ++ '\\' :: 'u' :: trail ++ rest) (hlead : StringPiece.IsHex lead)
    (htrail : StringPiece.IsHex trail) (hn₁ : hexNumber lead = some n₁)
    (hn₂ : hexNumber trail = some n₂) (h₁ : 0xD800 ≤ n₁) (h₂ : n₁ ≤ 0xDBFF) (h₃ : 0xDC00 ≤ n₂)
    (h₄ : n₂ ≤ 0xDFFF) :
    unicodeEscape t j = .ok (utf8Bytes (StringPiece.pairPoint n₁ n₂), j + 4 + 2 + 4) := by
  have hr' : rem t (j + 4) = '\\' :: 'u' :: (trail ++ rest) := by
    rw [← hlead.1]
    exact rem_add (by simpa using hr)
  have hr'' : rem t (j + 4 + 2) = trail ++ rest := rem_succ (rem_succ hr')
  unfold unicodeEscape
  rw [hexQuad_eq_ok_iff.2 ⟨lead, _, by simpa using hr, hlead, hn₁, rfl⟩]
  have hnot : ¬(0xDC00 ≤ n₁ ∧ n₁ ≤ 0xDFFF) := by omega
  have hlone : ¬(n₁ < 0xD800 ∨ 0xDBFF < n₁) := by omega
  simp only [bind, Except.bind, hnot, hlone, if_false]
  rw [byteAt_eq_head, hr', byteAt_eq_head, rem_succ hr']
  simp only [List.head?_cons]
  rw [hexQuad_eq_ok_iff.2 ⟨trail, rest, hr'', htrail, hn₂, rfl⟩]
  have hok : ¬(n₂ < 0xDC00 ∨ 0xDFFF < n₂) := by omega
  simp only [hok, if_false]
  rfl





/-- One step of a scan of a string: the closing quote ends it, and otherwise the scan takes one
piece and gathers its bytes. -/
theorem scanString_succ_sound {t : ByteArray} {keep : Bool} {fuel i : Nat} {acc : ByteArray}
    {r : ByteArray × Nat} (h : scanString t keep (fuel + 1) i acc = .ok r) :
    (∃ rest, rem t i = '"' :: rest) ∧ r = (acc, i + 1) ∨
      ∃ (p : StringPiece) (rest : List Char) (acc' : ByteArray), p.Scanned keep ∧
        rem t i = p.text ++ rest ∧ acc'.data.toList = acc.data.toList ++ p.gathered keep ∧
        scanString t keep fuel (i + p.text.length) acc' = .ok r := by
  rw [scanString, byteAt_eq_head] at h
  rcases hr : rem t i with _ | ⟨c, cs⟩
  · rw [hr] at h
    simp at h
  rw [hr] at h
  simp only [List.head?_cons] at h
  split at h
  · next heq => simp at heq
  · next heq =>
    obtain rfl : c = '"' := Option.some.inj heq
    cases h
    exact .inl ⟨⟨cs, rfl⟩, rfl⟩
  · next heq =>
    obtain rfl : c = '\\' := Option.some.inj heq
    rw [byteAt_eq_head, rem_succ hr] at h
    rcases cs with _ | ⟨e, cs⟩
    · simp at h
    simp only [List.head?_cons] at h
    cases hesc : simpleEscape e with
    | some b =>
      simp only [hesc] at h
      refine .inr ⟨.escape e, cs, if keep then acc.push b else acc, ?_, rfl, ?_, h⟩
      · cases keep
        · exact StringPiece.scanned_false.2 (.escape (by simp [hesc]))
        · exact StringPiece.scanned_true.2 (.escape (by simp [hesc]))
      · cases keep <;> simp [StringPiece.bytes, hesc]
    | none =>
      simp only [hesc] at h
      by_cases hu : e = 'u'
      · subst hu
        have hcs : rem t (i + 2) = cs := rem_succ (rem_succ hr)
        simp only [beq_self_eq_true, if_true] at h
        cases keep
        · -- a skipped `\u` escape: any four hex digits
          simp only [Bool.false_eq_true, if_false] at h
          rcases hq : hexQuad t (i + 2) with err | ⟨n, j⟩
          · simp [hq] at h
          rw [hq] at h
          obtain ⟨hex, rest, hr2, hhex, -, rfl⟩ := hexQuad_eq_ok_iff.1 hq
          refine .inr ⟨.unicode hex, rest, acc, StringPiece.scanned_false.2 (.unicode hhex), ?_,
            by simp, ?_⟩
          · rw [← hcs, hr2]
            rfl
          · simpa [StringPiece.text, hhex.1, Nat.add_assoc] using h
        · -- a decoded `\u` escape
          simp only [if_true] at h
          rcases hu' : unicodeEscape t (i + 2) with err | ⟨bytes, j⟩
          · simp [hu'] at h
          rw [hu'] at h
          have hi : rem t i = '\\' :: 'u' :: rem t (i + 2) := by rw [hr, hcs]
          obtain ⟨p, rest, hp, hpt, hbytes, rfl⟩ := unicodeEscape_sound hi hu'
          refine .inr ⟨p, rest, acc ++ bytes, StringPiece.scanned_true.2 hp, hr ▸ hpt, ?_, h⟩
          simp [hbytes]
      · simp [hu] at h
  · next c' hquote hslash heq =>
    obtain rfl : c = c' := Option.some.inj heq
    split at h
    · simp at h
    · next hcontrol =>
      have hplain : StringPiece.IsPlain c := ⟨hquote, hslash, by omega⟩
      refine .inr ⟨.plain c, cs, if keep then acc.push c.toNat.toUInt8 else acc, ?_, rfl, ?_, h⟩
      · cases keep
        · exact StringPiece.scanned_false.2 (.plain hplain)
        · exact StringPiece.scanned_true.2 (.plain hplain)
      · cases keep <;> simp [StringPiece.bytes]


/-- The closing quote ends a scan of a string. -/
theorem scanString_close {t : ByteArray} {keep : Bool} {fuel i : Nat} {acc : ByteArray}
    {rest : List Char} (h : rem t i = '"' :: rest) :
    scanString t keep (fuel + 1) i acc = .ok (acc, i + 1) := by
  rw [scanString, byteAt_eq_head, h]
  rfl

/-- A character that stands for itself is taken as it is. -/
theorem scanString_plain {t : ByteArray} {keep : Bool} {fuel i : Nat} {acc : ByteArray}
    {c : Char} {rest : List Char} (hc : StringPiece.IsPlain c) (h : rem t i = c :: rest) :
    scanString t keep (fuel + 1) i acc =
      scanString t keep fuel (i + 1) (if keep then acc.push c.toNat.toUInt8 else acc) := by
  obtain ⟨hquote, hslash, hcontrol⟩ := hc
  rw [scanString, byteAt_eq_head, h]
  -- neither a quote nor a backslash: the character is taken unless it is a control character
  simp only [List.head?_cons]
  rw [if_neg (by omega)]

/-- A one-letter escape is taken as the byte it stands for. -/
theorem scanString_escape {t : ByteArray} {keep : Bool} {fuel i : Nat} {acc : ByteArray}
    {e : Char} {b : UInt8} {rest : List Char} (hb : simpleEscape e = some b)
    (h : rem t i = '\\' :: e :: rest) :
    scanString t keep (fuel + 1) i acc =
      scanString t keep fuel (i + 2) (if keep then acc.push b else acc) := by
  rw [scanString, byteAt_eq_head, h, byteAt_eq_head, rem_succ h]
  simp only [List.head?_cons, hb]

/-- A `\u` escape whose bytes are not kept: any four hex digits. -/
theorem scanString_unicode_skip {t : ByteArray} {fuel i : Nat} {acc : ByteArray}
    {hex rest : List Char} (hhex : StringPiece.IsHex hex)
    (h : rem t i = '\\' :: 'u' :: (hex ++ rest)) :
    scanString t false (fuel + 1) i acc = scanString t false fuel (i + 2 + 4) acc := by
  have h2 : rem t (i + 2) = hex ++ rest := rem_succ (rem_succ h)
  obtain ⟨n, hn⟩ := hexNumber_of_isHex hhex
  rw [scanString, byteAt_eq_head, h, byteAt_eq_head, rem_succ h]
  simp only [List.head?_cons, show simpleEscape 'u' = none from rfl]
  rw [hexQuad_eq_ok_iff.2 ⟨hex, rest, h2, hhex, hn, rfl⟩]
  rfl


/-- A `\u` escape whose bytes are kept, through its decoding. -/
theorem scanString_unicode_keep {t : ByteArray} {fuel i : Nat} {acc bytes : ByteArray} {j : Nat}
    {rest : List Char} (h : rem t i = '\\' :: 'u' :: rest)
    (hu : unicodeEscape t (i + 2) = .ok (bytes, j)) :
    scanString t true (fuel + 1) i acc = scanString t true fuel j (acc ++ bytes) := by
  rw [scanString, byteAt_eq_head, h, byteAt_eq_head, rem_succ h]
  simp only [List.head?_cons, show simpleEscape 'u' = none from rfl, hu]
  rfl

/-- A scan of a string takes each piece it scans, gathering the bytes it keeps of it. -/
theorem scanString_piece {t : ByteArray} {keep : Bool} {fuel i : Nat} {acc : ByteArray}
    {p : StringPiece} {rest : List Char} (hp : p.Scanned keep) (h : rem t i = p.text ++ rest) :
    ∃ acc' : ByteArray, acc'.data.toList = acc.data.toList ++ p.gathered keep ∧
      scanString t keep (fuel + 1) i acc = scanString t keep fuel (i + p.text.length) acc' := by
  cases keep
  · rw [StringPiece.scanned_false] at hp
    cases hp with
    | plain hc =>
      exact ⟨acc, by simp, scanString_plain hc h⟩
    | escape he =>
      obtain ⟨b, hb⟩ := Option.isSome_iff_exists.1 he
      exact ⟨acc, by simp, scanString_escape hb h⟩
    | unicode hhex =>
      refine ⟨acc, by simp, ?_⟩
      rw [scanString_unicode_skip hhex (by simpa [StringPiece.text] using h)]
      simp [StringPiece.text, hhex.1, Nat.add_assoc]
  · rw [StringPiece.scanned_true] at hp
    cases hp with
    | @plain c hc =>
      exact ⟨acc.push c.toNat.toUInt8, by simp [StringPiece.bytes], scanString_plain hc h⟩
    | escape he =>
      obtain ⟨b, hb⟩ := Option.isSome_iff_exists.1 he
      exact ⟨acc.push b, by simp [StringPiece.bytes, hb], scanString_escape hb h⟩
    | @unicode hex n hhex hn hv =>
      have h2 : rem t (i + 2) = hex ++ rest := rem_succ (rem_succ h)
      refine ⟨acc ++ utf8Bytes n, by simp [bytes_unicode hn], ?_⟩
      rw [scanString_unicode_keep h (unicodeEscape_of_plain h2 hhex hn hv)]
      simp [StringPiece.text, hhex.1, Nat.add_assoc]
    | @pair lead trail n₁ n₂ hlead htrail hn₁ hn₂ h₁ h₂ h₃ h₄ =>
      have h2 : rem t (i + 2) = lead ++ '\\' :: 'u' :: trail ++ rest := by
        simpa [StringPiece.text] using rem_succ (rem_succ h)
      refine ⟨acc ++ utf8Bytes (StringPiece.pairPoint n₁ n₂), by simp [bytes_pair hn₁ hn₂], ?_⟩
      rw [scanString_unicode_keep h (unicodeEscape_of_pair h2 hlead htrail hn₁ hn₂ h₁ h₂ h₃ h₄)]
      simp [StringPiece.text, hlead.1, htrail.1]

theorem StringPiece.text_ne_nil (p : StringPiece) : p.text ≠ [] := by
  cases p <;> simp [StringPiece.text]

/-- What a scan of a string reads: pieces it takes, up to the closing quote, and the bytes it
gathers from them. -/
theorem scanString_sound {t : ByteArray} {keep : Bool} :
    ∀ {fuel i : Nat} {acc bytes : ByteArray} {j : Nat},
      scanString t keep fuel i acc = .ok (bytes, j) →
      ∃ pieces : List StringPiece, (∀ p ∈ pieces, p.Scanned keep) ∧
        rem t i = pieces.flatMap StringPiece.text ++ '"' :: rem t j ∧
        bytes.data.toList = acc.data.toList ++ pieces.flatMap (StringPiece.gathered keep)
  | 0, _, _, _, _, h => by simp [scanString] at h
  | fuel + 1, i, acc, bytes, j, h => by
    rcases scanString_succ_sound h with ⟨⟨rest, hr⟩, heq⟩ | ⟨p, rest, acc', hp, hr, hacc, h'⟩
    · obtain ⟨rfl, rfl⟩ := Prod.mk.inj heq
      exact ⟨[], by simp, by rw [hr, rem_succ hr]; rfl, by simp⟩
    · obtain ⟨pieces, hpieces, htext, hbytes⟩ := scanString_sound h'
      refine ⟨p :: pieces, ?_, ?_, ?_⟩
      · intro q hq
        rcases List.mem_cons.1 hq with rfl | hq
        · exact hp
        · exact hpieces q hq
      · rw [hr, ← rem_add hr, htext]
        simp
      · rw [hbytes, hacc]
        simp

/-- A scan of a string with enough fuel takes the pieces written before the closing quote. -/
theorem scanString_complete {t : ByteArray} {keep : Bool} :
    ∀ (pieces : List StringPiece) {fuel i : Nat} {acc : ByteArray} {rest : List Char},
      (∀ p ∈ pieces, p.Scanned keep) →
      rem t i = pieces.flatMap StringPiece.text ++ '"' :: rest → pieces.length < fuel →
      ∃ bytes : ByteArray,
        scanString t keep fuel i acc = .ok (bytes, i + (pieces.flatMap StringPiece.text).length + 1) ∧
        bytes.data.toList = acc.data.toList ++ pieces.flatMap (StringPiece.gathered keep)
  | [], fuel + 1, i, acc, rest, _, hr, _ => ⟨acc, by simpa using scanString_close hr, by simp⟩
  | p :: ps, fuel + 1, i, acc, rest, hps, hr, hfuel => by
    have hr' : rem t i = p.text ++ (ps.flatMap StringPiece.text ++ '"' :: rest) := by
      simpa using hr
    obtain ⟨acc', hacc, heq⟩ :=
      @scanString_piece t keep fuel i acc p _ (hps p (List.mem_cons_self ..)) hr'
    obtain ⟨bytes, hscan, hbytes⟩ := @scanString_complete t keep ps fuel _ acc' _
      (fun q hq => hps q (List.mem_cons_of_mem p hq)) (rem_add hr')
      (by simp at hfuel; omega)
    refine ⟨bytes, ?_, by rw [hbytes, hacc]; simp⟩
    rw [heq, hscan]
    simp
    omega


/-- The bytes gathered by a scan from nothing, as a byte array. -/
theorem eq_of_data_toList {bytes : ByteArray} {l : List UInt8}
    (h : bytes.data.toList = ByteArray.empty.data.toList ++ l) : bytes = ⟨l.toArray⟩ := by
  ext1
  apply Array.toList_inj.1
  simpa using h

/-- Where a scan of a string that ends at its closing quote leaves the cursor: after the quote,
inside the text. -/
theorem scan_end_le {t : ByteArray} {i : Nat} {cs rest : List Char}
    (h : rem t i = cs ++ '"' :: rest) : i + cs.length + 1 ≤ t.size := by
  have hlen := congrArg List.length h
  rw [length_rem] at hlen
  simp at hlen
  omega

theorem length_le_flatMap_text (pieces : List StringPiece) :
    pieces.length ≤ (pieces.flatMap StringPiece.text).length := by
  induction pieces with
  | nil => simp
  | cons p ps ih =>
    have := List.length_pos_of_ne_nil (StringPiece.text_ne_nil p)
    simp only [List.flatMap_cons, List.length_append, List.length_cons]
    omega

/-- The text after a closing quote. -/
theorem rem_after_quote {t : ByteArray} {i : Nat} {cs rest : List Char}
    (h : rem t i = cs ++ '"' :: rest) : rem t (i + cs.length + 1) = rest := by
  have h' : rem t i = (cs ++ ['"']) ++ rest := by simpa using h
  simpa [Nat.add_assoc] using rem_add h'

/-- A string read after its opening quote is the text of a string up to its closing quote. -/
theorem stringText_of_ok_readString {t : ByteArray} {i j : Nat} {s : String}
    (h : Ok (readString t) i s j) : StringText (rem t i) s (rem t j) := by
  unfold readString at h
  rw [ok_bind_of_run (show (get : Scan Nat).run.run i = (.ok i, i) from rfl)] at h
  rcases hscan : scanString t true (t.size + 1) i ByteArray.empty with ⟨code, k⟩ | ⟨bytes, k⟩
  · rw [hscan] at h
    simp [ok_bind] at h
  rw [hscan] at h
  simp only [ok_bind, ok_set] at h
  obtain ⟨u, k', rfl, hread⟩ := h
  obtain ⟨pieces, hpieces, htext, hbytes⟩ := scanString_sound hscan
  cases hutf : String.fromUTF8? bytes with
  | none =>
    rw [hutf] at hread
    simp at hread
  | some s' =>
    rw [hutf, ok_pure] at hread
    obtain ⟨rfl, rfl⟩ := hread
    refine ⟨pieces, fun p hp => StringPiece.scanned_true.1 (hpieces p hp), htext, ?_⟩
    rw [StringPiece.gathered_true] at hbytes
    rw [← eq_of_data_toList hbytes]
    exact hutf

/-- The text of a string after its opening quote is read, up to and with its closing quote. -/
theorem ok_readString_of_stringText {t : ByteArray} {i : Nat} {s : String} {rest : List Char}
    (h : StringText (rem t i) s rest) : Reads t (readString t) i s rest := by
  obtain ⟨pieces, hvalid, htext, hutf⟩ := h
  have hfuel : pieces.length < t.size + 1 := by
    have := length_le_flatMap_text pieces
    have := scan_end_le htext
    omega
  obtain ⟨bytes, hscan, hbytes⟩ := @scanString_complete t true pieces (t.size + 1) i
    ByteArray.empty rest (fun p hp => StringPiece.scanned_true.2 (hvalid p hp)) htext hfuel
  refine ⟨i + (pieces.flatMap StringPiece.text).length + 1, ?_, ?_, by omega, scan_end_le htext⟩
  · unfold readString
    rw [ok_bind_of_run (show (get : Scan Nat).run.run i = (.ok i, i) from rfl), hscan]
    simp only [ok_bind, ok_set]
    refine ⟨⟨⟩, _, rfl, ?_⟩
    rw [StringPiece.gathered_true] at hbytes
    rw [eq_of_data_toList hbytes, hutf, ok_pure]
    exact ⟨rfl, rfl⟩
  · exact rem_after_quote htext


/-- A string skipped after its opening quote has the form of a string up to its closing quote. -/
theorem stringForm_of_ok_ignoreString {t : ByteArray} {i j : Nat} {u : Unit}
    (h : Ok (ignoreString t) i u j) : StringForm (rem t i) (rem t j) := by
  unfold ignoreString at h
  rw [ok_bind_of_run (show (get : Scan Nat).run.run i = (.ok i, i) from rfl)] at h
  rcases hscan : scanString t false (t.size + 1) i ByteArray.empty with ⟨code, k⟩ | ⟨bytes, k⟩
  · rw [hscan] at h
    simp [ok_bind] at h
  rw [hscan, ok_set] at h
  subst h
  obtain ⟨pieces, hpieces, htext, -⟩ := scanString_sound hscan
  exact ⟨pieces, fun p hp => StringPiece.scanned_false.1 (hpieces p hp), htext⟩

/-- The form of a string after its opening quote is skipped, up to and with its closing quote. -/
theorem ok_ignoreString_of_stringForm {t : ByteArray} {i : Nat} {rest : List Char}
    (h : StringForm (rem t i) rest) : Reads t (ignoreString t) i () rest := by
  obtain ⟨pieces, hskip, htext⟩ := h
  have hfuel : pieces.length < t.size + 1 := by
    have := length_le_flatMap_text pieces
    have := scan_end_le htext
    omega
  obtain ⟨bytes, hscan, -⟩ := @scanString_complete t false pieces (t.size + 1) i
    ByteArray.empty rest (fun p hp => StringPiece.scanned_false.2 (hskip p hp)) htext hfuel
  refine ⟨i + (pieces.flatMap StringPiece.text).length + 1, ?_, rem_after_quote htext, by omega,
    scan_end_le htext⟩
  unfold ignoreString
  rw [ok_bind_of_run (show (get : Scan Nat).run.run i = (.ok i, i) from rfl), hscan, ok_set]

end WriteAccess.Json.Reader
