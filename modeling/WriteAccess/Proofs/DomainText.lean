import WriteAccess.Proofs.UrlWriting

/-!
# Domain names written by the host parser

Under a special scheme the host parser maps a host to an ASCII domain name. What it writes is
made of domain characters: ASCII that is neither a capital letter nor denied in a host
(`domainChars_of_domainToAscii`). Read again, such a text goes through the mapping unchanged:
every code point is valid, ASCII is in composed normal form, the labels are cut at the same dots
and every label is already ASCII, so a second pass gives the same name whenever it gives one
(`domainToAscii_domainText`). It always gives one when no label is in Punycode form
(`domainToAscii_of_plain`), since only a label that starts with `xn--` is decoded again.

The first pass writes domain characters because every label it writes passed the label checks:
an ASCII label holds only valid code points, a label in Punycode form decodes to valid code
points and otherwise holds Punycode digits (lower-case letters and decimal digits) and its
delimiter, and a label it encodes itself is written with the label's own ASCII, the delimiter
and Punycode digits.
-/

namespace WriteAccess.Url

/-! ## Bytes of ASCII text -/

/-- The bytes of a byte array, as a list, are its data. -/
theorem byteArray_toList_eq (bs : ByteArray) : bs.toList = bs.data.toList := by
  suffices h : ∀ i r, ByteArray.toList.loop bs i r = r.reverse ++ bs.data.toList.drop i by
    simpa [ByteArray.toList] using h 0 []
  intro i r
  fun_induction ByteArray.toList.loop bs i r with
  | case1 i r hi ih =>
    have hlt : i < bs.data.toList.length := by simpa using hi
    rw [ih]
    simp only [List.reverse_cons, List.append_assoc, List.singleton_append, ByteArray.get!]
    rw [List.drop_eq_getElem_cons hlt]
    simp [getElem!_pos bs.data i hi]
  | case2 i r hi =>
    have hle : bs.data.toList.length ≤ i := by
      simp only [Array.length_toList]
      exact Nat.le_of_not_lt hi
    simp only [List.drop_eq_nil_of_le hle, List.append_nil]

/-- The UTF-8 bytes of ASCII characters are their codes. -/
theorem flatMap_utf8EncodeChar_of_ascii :
    ∀ {cs : List Char}, (∀ c ∈ cs, c.toNat < 0x80) →
      cs.flatMap String.utf8EncodeChar = cs.map fun c => UInt8.ofNat c.toNat
  | [], _ => rfl
  | c :: rest, h => by
    rw [List.flatMap_cons, utf8EncodeChar_of_lt (h c List.mem_cons_self),
      flatMap_utf8EncodeChar_of_ascii fun x hx => h x (List.mem_cons_of_mem c hx)]
    rfl

/-- The UTF-8 bytes of an ASCII text are the codes of its characters. -/
theorem toUTF8_toList_of_ascii {t : String} (h : ∀ c ∈ t.toList, c.toNat < 0x80) :
    t.toUTF8.toList = t.toList.map fun c => UInt8.ofNat c.toNat := by
  rw [byteArray_toList_eq, String.toUTF8_eq_toByteArray, ← String.utf8Encode_toList]
  simp only [List.utf8Encode, List.toList_data_toByteArray]
  exact flatMap_utf8EncodeChar_of_ascii h

/-- Percent-decoding leaves bytes without `%` as they are. -/
theorem decodeBytes_of_not_mem : ∀ {bs : List UInt8}, (0x25 : UInt8) ∉ bs → decodeBytes bs = bs
  | [], _ => by rw [decodeBytes]
  | [_], _ => by rw [decodeBytes]
  | [_, _], _ => by rw [decodeBytes]
  | b :: h :: l :: tail, hnot => by
    have hb : b ≠ 0x25 := fun hb => hnot (by rw [← hb]; exact List.mem_cons_self)
    rw [decodeBytes, if_neg (by simpa using hb),
      decodeBytes_of_not_mem fun hmem => hnot (List.mem_cons_of_mem b hmem)]
termination_by bs => bs.length

/-- A text of ASCII characters without `%` percent-decodes to its own bytes. -/
theorem decodeText_of_ascii {t : String} (hascii : ∀ c ∈ t.toList, c.toNat < 0x80)
    (hpercent : '%' ∉ t.toList) : decodeText t = t.toUTF8.toList := by
  apply decodeBytes_of_not_mem
  rw [toUTF8_toList_of_ascii hascii]
  intro hmem
  obtain ⟨c, hc, hcode⟩ := List.mem_map.1 hmem
  have hcode' : c.toNat = 0x25 := by
    have := congrArg UInt8.toNat hcode
    rwa [toNat_byte_of_lt (hascii c hc)] at this
  exact hpercent (by rwa [show c = '%' from Char.ext (UInt32.toNat_inj.1 hcode')] at hc)

/-- The UTF-8 bytes of a text decode back to it. -/
theorem fromUTF8?_toUTF8 (t : String) : String.fromUTF8? t.toUTF8 = some t := by
  simp only [String.fromUTF8?, String.toUTF8_eq_toByteArray, dif_pos t.isValidUTF8]
  rfl

/-- The bytes of a text, listed and gathered again, decode back to it. -/
theorem fromUTF8?_toUTF8_toList (t : String) :
    String.fromUTF8? (ByteArray.mk t.toUTF8.toList.toArray) = some t := by
  rw [byteArray_toList_eq, Array.toArray_toList]
  exact fromUTF8?_toUTF8 t

/-! ## Lists cut at separators -/

/-- Cutting a mapped list at the images of the separators is mapping the pieces. -/
theorem splitOnPPrepend_map {α β : Type} (f : α → β) (p : β → Bool) :
    ∀ (l acc : List α),
      (l.map f).splitOnPPrepend p (acc.map f) = (l.splitOnPPrepend (p ∘ f) acc).map (List.map f)
  | [], acc => by simp
  | x :: rest, acc => by
    by_cases hx : p (f x) = true
    · rw [List.map_cons, List.splitOnPPrepend_cons_pos hx,
        List.splitOnPPrepend_cons_pos (p := p ∘ f) hx, ← List.splitOnPPrepend_nil_right,
        ← List.splitOnPPrepend_nil_right, ← List.map_nil,
        splitOnPPrepend_map f p rest []]
      simp
    · have hx' : p (f x) = false := by simpa using hx
      rw [List.map_cons, List.splitOnPPrepend_cons_neg hx',
        List.splitOnPPrepend_cons_neg (p := p ∘ f) hx', ← List.map_cons,
        splitOnPPrepend_map f p rest (x :: acc)]

/-- A list gives values exactly when its head and its tail do. -/
theorem mapM_cons_eq_some {α β : Type} {f : α → Option β} {x : α} {rest : List α}
    {l' : List β} :
    (x :: rest).mapM f = some l' ↔ ∃ y ys, f x = some y ∧ rest.mapM f = some ys ∧ l' = y :: ys := by
  rw [List.mapM_cons]
  cases hx : f x with
  | none => simp
  | some y =>
    cases hrest : rest.mapM f with
    | none => simp
    | some ys => simp [eq_comm]

/-- Every element gives a value: the list of the values. -/
theorem mapM_eq_some_map {α β : Type} {f : α → Option β} {g : α → β} :
    ∀ {l : List α}, (∀ x ∈ l, f x = some (g x)) → l.mapM f = some (l.map g)
  | [], _ => rfl
  | x :: rest, h =>
    mapM_cons_eq_some.2 ⟨g x, rest.map g, h x List.mem_cons_self,
      mapM_eq_some_map fun y hy => h y (List.mem_cons_of_mem x hy), rfl⟩

/-- When every element gives a value, each element has its value among the values. -/
theorem exists_of_mapM_eq_some_left {α β : Type} {f : α → Option β} {a : α} :
    ∀ {l : List α} {l' : List β}, l.mapM f = some l' → a ∈ l → ∃ b ∈ l', f a = some b
  | [], _, _, ha => absurd ha List.not_mem_nil
  | x :: rest, l', h, ha => by
    obtain ⟨y, ys, hx, hrest, rfl⟩ := mapM_cons_eq_some.1 h
    rcases List.mem_cons.1 ha with rfl | ha
    · exact ⟨y, List.mem_cons_self, hx⟩
    · obtain ⟨b, hb, hab⟩ := exists_of_mapM_eq_some_left hrest ha
      exact ⟨b, List.mem_cons_of_mem y hb, hab⟩

/-- When every element gives a value, each value comes from an element. -/
theorem exists_of_mapM_eq_some_right {α β : Type} {f : α → Option β} {b : β} :
    ∀ {l : List α} {l' : List β}, l.mapM f = some l' → b ∈ l' → ∃ a ∈ l, f a = some b
  | [], l', h, hb => by
    simp only [List.mapM_nil, Option.pure_def, Option.some.injEq] at h
    subst h
    exact absurd hb List.not_mem_nil
  | x :: rest, l', h, hb => by
    obtain ⟨y, ys, hx, hrest, rfl⟩ := mapM_cons_eq_some.1 h
    rcases List.mem_cons.1 hb with rfl | hb
    · exact ⟨x, List.mem_cons_self, hx⟩
    · obtain ⟨a, ha, hab⟩ := exists_of_mapM_eq_some_right hrest hb
      exact ⟨a, List.mem_cons_of_mem x ha, hab⟩

/-! ## What the Punycode encoder writes -/

/-- An ASCII code point is the code of its character. -/
theorem toNat_ofNat_of_lt {n : Nat} (h : n < 0x80) : (Char.ofNat n).toNat = n := by
  unfold Char.ofNat
  rw [dif_pos (Or.inl (by omega))]
  simp [Char.ofNatAux, Char.toNat]

namespace Punycode

/-- The encoder writes a digit, the delimiter, or a basic code point of the label. -/
def Writes (label : List Nat) (c : Char) : Prop :=
  (∃ d < 36, c = digitChar d) ∨ c = '-' ∨ ∃ x ∈ label, x < 0x80 ∧ c = Char.ofNat x

/-- A variable-length integer is written in digits. -/
theorem mem_encodeInteger {bias k q : Nat} {c : Char} (h : c ∈ encodeInteger bias k q) :
    ∃ d < 36, c = digitChar d := by
  fun_induction encodeInteger bias k q with
  | case1 k q t hq =>
    have ht := threshold_le k bias
    exact ⟨q, by omega, List.mem_singleton.1 h⟩
  | case2 k q t hq ih =>
    rcases List.mem_cons.1 h with rfl | h
    · have ht := threshold_le k bias
      have hpos := threshold_pos k bias
      have hmod : (q - t) % (36 - t) < 36 - t := Nat.mod_lt _ (by omega)
      exact ⟨t + (q - t) % (36 - t), by omega, rfl⟩
    · exact ih h

section Passes

variable {label : List Nat} {P : Char → Prop} (hdigit : ∀ d < 36, P (digitChar d))
include hdigit

/-- A pass over the label adds only digits to the output. -/
theorem encodePass_output {basicCount m : Nat} :
    ∀ {st : EncodeState} {cs : List Nat}, (∀ c ∈ st.output, P c) →
      ∀ c ∈ (encodePass basicCount m st cs).output, P c
  | _, [], h => h
  | st, x :: rest, h => by
    rw [encodePass]
    split
    · exact encodePass_output h
    · split
      · refine encodePass_output fun c hc => ?_
        rcases List.mem_append.1 hc with hc | hc
        · exact h c hc
        · obtain ⟨d, hd, rfl⟩ := mem_encodeInteger hc
          exact hdigit d hd
      · exact encodePass_output h

/-- The rounds of the encoder add only digits to the output. -/
theorem encodeRounds_output {basicCount : Nat} :
    ∀ {fuel : Nat} {st : EncodeState}, (∀ c ∈ st.output, P c) →
      ∀ c ∈ (encodeRounds label basicCount fuel st).output, P c
  | 0, _, h => h
  | fuel + 1, st, h => by
    rw [encodeRounds]
    split
    · exact h
    · exact encodeRounds_output (encodePass_output hdigit h)

end Passes

/-- The Punycode form of a label is written in digits, the delimiter and the label's own basic
code points. -/
theorem encode_writes {label : List Nat} {s : String} (h : encode label = some s) :
    ∀ c ∈ s.toList, Writes label c := by
  unfold encode at h
  split at h
  · cases h
  · cases h
    rw [String.toList_ofList]
    refine encodeRounds_output (fun d hd => .inl ⟨d, hd, rfl⟩) fun c hc => ?_
    rcases List.mem_append.1 hc with hc | hc
    · obtain ⟨x, hx, rfl⟩ := List.mem_map.1 hc
      obtain ⟨hx, hlt⟩ := List.mem_filter.1 hx
      have hlt : x < initialN := of_decide_eq_true hlt
      exact .inr (.inr ⟨x, hx, hlt, rfl⟩)
    · split at hc
      · simp at hc
      · exact .inr (.inl (List.mem_singleton.1 hc))

/-- No digit is a dot. -/
theorem digitChar_ne_dot {d : Nat} (hd : d < 36) : digitChar d ≠ '.' := by
  intro h
  have := congrArg Char.toNat h
  unfold digitChar at this
  split at this
  · rw [toNat_ofNat_of_lt (by omega)] at this
    exact absurd this (by simp; omega)
  · rw [toNat_ofNat_of_lt (by omega)] at this
    exact absurd this (by simp; omega)

/-- The Punycode form of a label without a dot has no dot. -/
theorem dot_not_mem_encode {label : List Nat} (hlabel : 0x2E ∉ label) {s : String}
    (h : encode label = some s) : '.' ∉ s.toList := by
  intro hdot
  rcases encode_writes h '.' hdot with ⟨d, hd, heq⟩ | heq | ⟨x, hx, hlt, heq⟩
  · exact digitChar_ne_dot hd heq.symm
  · cases heq
  · have : x = 0x2E := by
      have := congrArg Char.toNat heq
      rw [toNat_ofNat_of_lt hlt] at this
      simpa using this.symm
    exact hlabel (this ▸ hx)

end Punycode

/-! ## The mapping on ASCII text -/

namespace Idna

/-- Whether a code point is a capital ASCII letter. -/
def isCapital (c : Nat) : Bool := 0x41 ≤ c && c ≤ 0x5A

/-- Whether a character may stand in a domain name the host parser writes: ASCII, not a capital
letter, and not denied in a host. -/
def isDomainChar (c : Char) : Bool :=
  c.toNat < 0x80 && !isCapital c.toNat && !denied c.toNat

/-- An ASCII code point is valid unless it is a capital letter. -/
theorem status_of_ascii {c : Nat} (h : c < 0x80) (hcap : isCapital c = false) :
    status c = .valid := by
  simp only [isCapital, Bool.and_eq_false_iff, decide_eq_false_iff_not, Nat.not_le] at hcap
  have : ¬ (0x41 ≤ c ∧ c ≤ 0x5A) := by omega
  simp [status, h, asciiStatus, this]

/-- An ASCII code point may stand in a label as it is exactly when it is not a capital letter. -/
theorem isValidPoint_of_ascii {c : Nat} (h : c < 0x80) :
    isValidPoint c = !isCapital c := by
  by_cases hcap : 0x41 ≤ c ∧ c ≤ 0x5A
  · have : isCapital c = true := by simpa [isCapital] using hcap
    simp [isValidPoint, status, h, asciiStatus, hcap, this]
  · have : isCapital c = false := by simpa [isCapital] using hcap
    simp [isValidPoint, status, h, asciiStatus, hcap, this]

/-- Code points that are all valid are mapped to themselves. -/
theorem mapPoints_of_valid : ∀ {cs : List Nat}, (∀ c ∈ cs, status c = .valid) →
    mapPoints cs = some cs
  | [], _ => rfl
  | c :: rest, h => by
    rw [mapPoints, h c List.mem_cons_self,
      mapPoints_of_valid fun x hx => h x (List.mem_cons_of_mem c hx)]

/-- Splitting code points at the dots is cutting the list at `.`. -/
theorem splitLabels_eq : ∀ (cs acc : List Nat),
    splitLabels cs acc = cs.splitOnPPrepend (· == 0x2E) acc
  | [], acc => rfl
  | c :: rest, acc => by
    by_cases hc : c = 0x2E
    · rw [splitLabels, if_pos hc, List.splitOnPPrepend_cons_pos (by simpa using hc),
        splitLabels_eq rest [], List.splitOnPPrepend_nil_right]
    · rw [splitLabels, if_neg hc, List.splitOnPPrepend_cons_neg (by simpa using hc),
        splitLabels_eq rest (c :: acc)]

/-- An ASCII label is written as it is. -/
theorem labelToAscii_of_ascii {label : List Nat} (h : ∀ c ∈ label, c < 0x80) :
    labelToAscii label = some (String.ofList (label.map Char.ofNat)) := by
  simp [labelToAscii, List.all_eq_true.2 fun c hc => decide_eq_true (h c hc)]

/-- The labels of a text of code points, cut at the dots: the text's own pieces between dots. -/
theorem splitLabels_toNat (t : String) :
    splitLabels (t.toList.map Char.toNat) [] = (t.toList.splitOn '.').map (List.map Char.toNat) := by
  have hsep : ((· == 0x2E) ∘ Char.toNat) = (· == '.') := by
    funext c
    by_cases hc : c = '.'
    · simp [hc]
    · have : c.toNat ≠ 0x2E := fun h => hc (Char.ext (UInt32.toNat_inj.1 h))
      simp [hc, this]
  rw [splitLabels_eq, ← List.map_nil (f := Char.toNat), splitOnPPrepend_map, hsep,
    List.splitOnPPrepend_nil_right, List.splitOn_eq_splitOnP]

/-- Joining the labels of a text again at the dots gives the text. -/
theorem intercalate_splitLabels (t : String) :
    ".".intercalate ((splitLabels (t.toList.map Char.toNat) []).map
      fun label => String.ofList (label.map Char.ofNat)) = t := by
  rw [splitLabels_toNat, List.map_map]
  have hid : ((fun label => String.ofList (label.map Char.ofNat)) ∘ List.map Char.toNat) =
      String.ofList := by
    funext l
    simp [List.map_map, Function.comp_def, Char.ofNat_toNat]
  rw [hid, ← String.toList_inj, String.toList_intercalate, List.map_map]
  simp [Function.comp_def, List.intercalate_splitOn]

/-- A code point of a label is one of the text cut, and not a dot, or one already read. -/
theorem mem_of_mem_splitLabels {c : Nat} : ∀ {cs acc : List Nat} {label : List Nat},
    label ∈ splitLabels cs acc → c ∈ label → (c ∈ cs ∧ c ≠ 0x2E) ∨ c ∈ acc
  | [], acc, label, hlabel, hc => by
    simp only [splitLabels, List.mem_singleton] at hlabel
    subst hlabel
    exact .inr (List.mem_reverse.1 hc)
  | x :: rest, acc, label, hlabel, hc => by
    rw [splitLabels] at hlabel
    split at hlabel
    · rcases List.mem_cons.1 hlabel with rfl | hlabel
      · exact .inr (List.mem_reverse.1 hc)
      · rcases mem_of_mem_splitLabels hlabel hc with ⟨h, hdot⟩ | h
        · exact .inl ⟨List.mem_cons_of_mem x h, hdot⟩
        · simp at h
    · rcases mem_of_mem_splitLabels hlabel hc with ⟨h, hdot⟩ | h
      · exact .inl ⟨List.mem_cons_of_mem x h, hdot⟩
      · rcases List.mem_cons.1 h with rfl | h
        · exact .inl ⟨List.mem_cons_self, ‹_›⟩
        · exact .inr h

/-- Cutting at the dots gives at least one label. -/
theorem splitLabels_ne_nil : ∀ (cs acc : List Nat), splitLabels cs acc ≠ []
  | [], _ => by simp [splitLabels]
  | c :: rest, acc => by
    rw [splitLabels]
    split
    · simp
    · exact splitLabels_ne_nil rest (c :: acc)

/-- Domain characters are ASCII. -/
theorem lt_of_isDomainChar {c : Char} (h : isDomainChar c = true) : c.toNat < 0x80 := by
  simp only [isDomainChar, Bool.and_eq_true, decide_eq_true_eq] at h
  exact h.1.1

/-- The facts about the code points of a text of domain characters that the mapping reads. -/
theorem points_of_domainChars {t : String} (h : ∀ c ∈ t.toList, isDomainChar c = true) :
    ∀ c ∈ t.toList.map Char.toNat, c < 0x80 ∧ isCapital c = false ∧ denied c = false := by
  intro c hc
  obtain ⟨x, hx, rfl⟩ := List.mem_map.1 hc
  have := h x hx
  simp only [isDomainChar, Bool.and_eq_true, decide_eq_true_eq, Bool.not_eq_true'] at this
  exact ⟨this.1.1, this.1.2, this.2⟩

/-- A text of domain characters read again as a domain name: it comes back as it is, once every
label passes the label checks and the name the rules for right-to-left text. -/
theorem domainToAscii_domainText_eq {t : String} (h : ∀ c ∈ t.toList, isDomainChar c = true) :
    domainToAscii (decodeText t) =
      ((splitLabels (t.toList.map Char.toNat) []).mapM labelToUnicode).bind fun unicode =>
        if Bidi.domainReadsOneWay unicode then some t else none := by
  have hpoints := points_of_domainChars h
  have hascii : ∀ c ∈ t.toList, c.toNat < 0x80 := fun c hc => lt_of_isDomainChar (h c hc)
  have hpercent : '%' ∉ t.toList := fun hc => by simpa [isDomainChar, denied] using h '%' hc
  have hmapped : mapPoints (t.toList.map Char.toNat) = some (t.toList.map Char.toNat) :=
    mapPoints_of_valid fun c hc => status_of_ascii (hpoints c hc).1 (hpoints c hc).2.1
  have hnormal : Text.Canonical.normalize (t.toList.map Char.toNat) = t.toList.map Char.toNat := by
    simp only [Text.Canonical.normalize, List.all_eq_true, decide_eq_true_eq]
    rw [if_pos fun c hc => (hpoints c hc).1]
  have hallowed : (t.toList.map Char.toNat).any (fun c => c < 0x80 && denied c) = false := by
    simp only [List.any_eq_false, Bool.and_eq_true, decide_eq_true_eq, not_and, Bool.not_eq_true]
    exact fun c hc _ => (hpoints c hc).2.2
  -- every label is ASCII, so it is written as it is
  have hlabels : (splitLabels (t.toList.map Char.toNat) []).mapM labelToAscii =
      some ((splitLabels (t.toList.map Char.toNat) []).map
        fun label => String.ofList (label.map Char.ofNat)) := by
    refine mapM_eq_some_map fun label hlabel => labelToAscii_of_ascii fun c hc => ?_
    rcases mem_of_mem_splitLabels hlabel hc with ⟨hc, -⟩ | hc
    · exact (hpoints c hc).1
    · simp at hc
  unfold domainToAscii
  rw [decodeText_of_ascii hascii hpercent, fromUTF8?_toUTF8_toList]
  simp only [Option.bind_eq_bind, Option.bind_some, hmapped, hnormal, hallowed]
  cases (splitLabels (t.toList.map Char.toNat) []).mapM labelToUnicode with
  | none => rfl
  | some unicode =>
    by_cases hway : Bidi.domainReadsOneWay unicode = true
    · simp [hway, hlabels, intercalate_splitLabels]
    · simp [hway]

/-- A text of domain characters read again as a domain name comes back as it is, whenever the
label checks let it through. -/
theorem domainToAscii_domainText {t : String} (h : ∀ c ∈ t.toList, isDomainChar c = true)
    {name : String} (hname : domainToAscii (decodeText t) = some name) : name = t := by
  rw [domainToAscii_domainText_eq h] at hname
  obtain ⟨unicode, -, hway⟩ := Option.bind_eq_some_iff.1 hname
  split at hway
  · exact (Option.some.inj hway).symm
  · cases hway

/-! ## Names with no label in Punycode form -/

/-- Whether a label is in Punycode form: it starts with xn--. -/
def isPunycodeLabel : List Char → Bool
  | 'x' :: 'n' :: '-' :: '-' :: _ => true
  | _ => false

/-- Whether a domain name has a label in Punycode form. -/
def hasPunycodeLabel (name : String) : Bool := (name.toList.splitOn '.').any isPunycodeLabel

/-- No ASCII code point is a combining mark. -/
theorem isMark_of_lt {c : Nat} (h : c < 0x80) : isMark c = false := by
  simp only [isMark, Bool.and_eq_false_iff, decide_eq_false_iff_not, Nat.not_le]
  exact .inl (by omega)

/-- An ASCII label has no joiner, so none is out of place. -/
theorem joinersPlaced_of_ascii : ∀ {before label : List Nat}, (∀ c ∈ label, c < 0x80) →
    joinersPlaced before label = true
  | _, [], _ => rfl
  | before, c :: rest, h => by
    have hc := h c List.mem_cons_self
    have hrest : joinersPlaced (c :: before) rest = true :=
      joinersPlaced_of_ascii fun x hx => h x (List.mem_cons_of_mem c hx)
    simp only [joinersPlaced, if_neg (show c ≠ 0x200D by omega),
      if_neg (show c ≠ 0x200C by omega), hrest, Bool.and_self]

/-- A label of ASCII code points that are neither capitals nor denied passes the label checks. -/
theorem labelAllowed_of_points {label : List Nat}
    (h : ∀ c ∈ label, c < 0x80 ∧ isCapital c = false ∧ denied c = false) :
    labelAllowed label = true := by
  have hstart : startsWithMark label = false := by
    cases label with
    | nil => rfl
    | cons c rest => exact isMark_of_lt (h c List.mem_cons_self).1
  have hall : label.all (fun c => isValidPoint c && !(c < 0x80 && denied c)) = true := by
    refine List.all_eq_true.2 fun c hc => ?_
    obtain ⟨hlt, hcap, hdenied⟩ := h c hc
    simp [isValidPoint_of_ascii hlt, hcap, hdenied]
  simp only [labelAllowed, hstart, joinersPlaced_of_ascii fun c hc => (h c hc).1, hall,
    Bool.not_false, Bool.and_self]

/-- A label of domain characters not in Punycode form is valid as it stands. -/
theorem labelToUnicode_of_plain {label : List Char}
    (h : ∀ c ∈ label.map Char.toNat, c < 0x80 ∧ isCapital c = false ∧ denied c = false)
    (hplain : isPunycodeLabel label = false) :
    labelToUnicode (label.map Char.toNat) = some (label.map Char.toNat) := by
  have hfree : ∀ encoded, label.map Char.toNat ≠ 0x78 :: 0x6E :: 0x2D :: 0x2D :: encoded := by
    intro encoded heq
    have hlabel := congrArg (List.map Char.ofNat) heq
    simp only [List.map_map, Function.comp_def, Char.ofNat_toNat, List.map_id', List.map_cons]
      at hlabel
    rw [hlabel] at hplain
    exact absurd hplain (by simp [isPunycodeLabel])
  unfold labelToUnicode
  split
  · exact absurd ‹_› (hfree _)
  · rw [if_pos (labelAllowed_of_points h)]

/-- A name of ASCII labels is not a bidirectional domain name. -/
theorem domainReadsOneWay_of_ascii {labels : List (List Nat)}
    (h : ∀ label ∈ labels, ∀ c ∈ label, c < 0x80) : Bidi.domainReadsOneWay labels = true := by
  have hbidi : Bidi.isBidiDomain labels = false := by
    refine List.any_eq_false.2 fun label hlabel => ?_
    rw [Bool.not_eq_true, List.any_eq_false]
    intro c hc
    simp [Nat.not_le.2 (h label hlabel c hc)]
  simp [Bidi.domainReadsOneWay, hbidi]

/-- A text of domain characters with no label in Punycode form is a domain name, and the host
parser gives it back as it is. -/
theorem domainToAscii_of_plain {t : String} (h : ∀ c ∈ t.toList, isDomainChar c = true)
    (hplain : hasPunycodeLabel t = false) : domainToAscii (decodeText t) = some t := by
  have hpoints := points_of_domainChars h
  have hlabels : ∀ label ∈ (t.toList.splitOn '.').map (List.map Char.toNat),
      labelToUnicode label = some label := by
    intro label hlabel
    obtain ⟨piece, hpiece, rfl⟩ := List.mem_map.1 hlabel
    refine labelToUnicode_of_plain (fun c hc => hpoints c ?_) ?_
    · rw [← splitLabels_toNat] at hlabel
      rcases mem_of_mem_splitLabels hlabel hc with ⟨hc, -⟩ | hc
      · exact hc
      · simp at hc
    · simpa [hasPunycodeLabel] using List.any_eq_false.1 hplain piece hpiece
  have hascii : ∀ label ∈ (t.toList.splitOn '.').map (List.map Char.toNat), ∀ c ∈ label,
      c < 0x80 := by
    intro label hlabel c hc
    rw [← splitLabels_toNat] at hlabel
    rcases mem_of_mem_splitLabels hlabel hc with ⟨hc, -⟩ | hc
    · exact (hpoints c hc).1
    · simp at hc
  rw [domainToAscii_domainText_eq h, splitLabels_toNat, mapM_eq_some_map (g := id) hlabels]
  simp [domainReadsOneWay_of_ascii hascii]

/-! ## What the first pass writes -/

/-- A name the host parser writes is the ASCII forms of labels, joined by dots: labels that hold
no dot, no ASCII code point denied in a host, and pass the label checks. -/
theorem domainToAscii_labels {bytes : List UInt8} {name : String}
    (h : domainToAscii bytes = some name) :
    ∃ labels ascii, labels ≠ [] ∧ (∀ label ∈ labels, 0x2E ∉ label) ∧
      (∀ label ∈ labels, ∀ x ∈ label, x < 0x80 → denied x = false) ∧
      (∀ label ∈ labels, ∃ unicode, labelToUnicode label = some unicode) ∧
      labels.mapM labelToAscii = some ascii ∧ name = ".".intercalate ascii := by
  unfold domainToAscii at h
  simp only [Option.bind_eq_bind, Option.bind_eq_some_iff] at h
  obtain ⟨text, -, mapped, -, h⟩ := h
  generalize hlabels : splitLabels (Text.Canonical.normalize mapped) [] = labels at h
  split at h
  · simp at h
  rename_i hallowed
  obtain ⟨unicode, hunicode, h⟩ := Option.bind_eq_some_iff.1 h
  split at h
  · simp at h
  obtain ⟨ascii, hascii, h⟩ := Option.bind_eq_some_iff.1 h
  refine ⟨labels, ascii, hlabels ▸ splitLabels_ne_nil _ _, fun label hlabel hdot => ?_,
    fun label hlabel x hx hlt => ?_, fun label hlabel => ?_, hascii, (Option.some.inj h).symm⟩
  · rw [← hlabels] at hlabel
    rcases mem_of_mem_splitLabels hlabel hdot with ⟨-, hne⟩ | hnil
    · exact hne rfl
    · simp at hnil
  · -- the whole mapped text was checked for denied ASCII code points before it was cut
    rw [← hlabels] at hlabel
    rcases mem_of_mem_splitLabels hlabel hx with ⟨hx, -⟩ | hnil
    · simp only [Bool.not_eq_true, List.any_eq_false, Bool.and_eq_true, decide_eq_true_eq,
        not_and, Bool.not_eq_true] at hallowed
      exact hallowed x hx hlt
    · simp at hnil
  · obtain ⟨u, -, hu⟩ := exists_of_mapM_eq_some_left hunicode hlabel
    exact ⟨u, hu⟩

/-- A label that passes the label checks, written as it is, is made of domain characters. -/
theorem domainChars_of_plain_label {label : List Nat} {unicode : List Nat}
    (hunicode : labelToUnicode label = some unicode) (hascii : label.all (· < 0x80) = true)
    (hplain : isPunycodeLabel (label.map Char.ofNat) = false) :
    ∀ c ∈ label.map Char.ofNat, isDomainChar c = true := by
  have hallowed : labelAllowed label = true := by
    unfold labelToUnicode at hunicode
    split at hunicode
    · rename_i encoded
      simp [isPunycodeLabel] at hplain
    · split at hunicode
      · assumption
      · cases hunicode
  intro c hc
  obtain ⟨x, hx, rfl⟩ := List.mem_map.1 hc
  have hlt : x < 0x80 := of_decide_eq_true (List.all_eq_true.1 hascii x hx)
  have hchecks : (startsWithMark label = false ∧ joinersPlaced [] label = true) ∧
      ∀ x ∈ label, isValidPoint x = true ∧ (0x80 ≤ x ∨ denied x = false) := by
    simpa [labelAllowed] using hallowed
  obtain ⟨hvalid, hden⟩ := hchecks.2 x hx
  rw [isValidPoint_of_ascii hlt, Bool.not_eq_true'] at hvalid
  have hden : denied x = false := hden.resolve_left (by omega)
  simp [isDomainChar, toNat_ofNat_of_lt hlt, hlt, hden, hvalid]

/-- A name the host parser writes with no label in Punycode form is made of domain characters:
each of its labels was written as it is, after the label checks. -/
theorem domainChars_of_domainToAscii {bytes : List UInt8} {name : String}
    (h : domainToAscii bytes = some name) (hplain : hasPunycodeLabel name = false) :
    ∀ c ∈ name.toList, isDomainChar c = true := by
  obtain ⟨labels, ascii, hne, hdots, -, hunicode, hascii, rfl⟩ := domainToAscii_labels h
  have hdot : ∀ s ∈ ascii, '.' ∉ s.toList := by
    intro s hs
    obtain ⟨label, hlabel, hs⟩ := exists_of_mapM_eq_some_right hascii hs
    unfold labelToAscii at hs
    split at hs
    · rename_i hall
      cases hs
      intro hmem
      obtain ⟨x, hx, heq⟩ := List.mem_map.1 (by simpa using hmem)
      have hlt : x < 0x80 := of_decide_eq_true (List.all_eq_true.1 hall x hx)
      have : x = 0x2E := by
        have := congrArg Char.toNat heq
        rw [toNat_ofNat_of_lt hlt] at this
        simpa using this
      exact hdots label hlabel (this ▸ hx)
    · obtain ⟨encoded, hencoded, rfl⟩ := Option.map_eq_some_iff.1 hs
      simp only [String.toList_append, List.mem_append, not_or]
      exact ⟨by decide, Punycode.dot_not_mem_encode (hdots label hlabel) hencoded⟩
  have hasciine : ascii ≠ [] := by
    rintro rfl
    cases labels with
    | nil => exact hne rfl
    | cons label rest =>
      obtain ⟨s, hs, -⟩ := exists_of_mapM_eq_some_left hascii List.mem_cons_self
      exact absurd hs List.not_mem_nil
  have hsplit : (".".intercalate ascii).toList.splitOn '.' = ascii.map String.toList := by
    rw [String.toList_intercalate]
    exact List.splitOn_intercalate '.' (by simpa using hdot) (by simpa using hasciine)
  intro c hc
  rw [String.toList_intercalate] at hc
  rcases mem_intercalate_singleton hc with rfl | ⟨p, hp, hcp⟩
  · rfl
  obtain ⟨s, hs, rfl⟩ := List.mem_map.1 hp
  obtain ⟨label, hlabel, hlabelascii⟩ := exists_of_mapM_eq_some_right hascii hs
  have hsplain : isPunycodeLabel s.toList = false := by
    have hlabels : ((".".intercalate ascii).toList.splitOn '.').any isPunycodeLabel = false :=
      hplain
    rw [hsplit] at hlabels
    simpa using List.any_eq_false.1 hlabels s.toList (List.mem_map_of_mem hs)
  obtain ⟨unicode, hu⟩ := hunicode label hlabel
  unfold labelToAscii at hlabelascii
  split at hlabelascii
  · rename_i hall
    cases hlabelascii
    rw [String.toList_ofList] at hsplain hcp
    exact domainChars_of_plain_label hu hall hsplain c hcp
  · obtain ⟨encoded, -, rfl⟩ := Option.map_eq_some_iff.1 hlabelascii
    simp [isPunycodeLabel] at hsplain

/-! ## What every written name holds -/

/-- No letter or decimal digit is denied in a host. -/
theorem denied_of_alnum {c : Nat} (h : (48 ≤ c ∧ c ≤ 57) ∨ (97 ≤ c ∧ c ≤ 122)) :
    denied c = false := by
  have hall : ("%#/:<>?@[\\]^|".toList.all fun x =>
      decide (x.toNat < 48 ∨ (57 < x.toNat ∧ x.toNat < 97) ∨ 122 < x.toNat)) = true := by decide
  simp only [denied, Bool.or_eq_false_iff, decide_eq_false_iff_not, beq_eq_false_iff_ne,
    List.contains_eq_mem]
  refine ⟨⟨by omega, by omega⟩, fun hmem => ?_⟩
  have hsign := of_decide_eq_true (List.all_eq_true.1 hall _ hmem)
  rw [toNat_ofNat_of_lt (by omega)] at hsign
  omega

/-- A digit of the Punycode encoder is not denied in a host. -/
theorem denied_digitChar {d : Nat} (hd : d < 36) : denied (Punycode.digitChar d).toNat = false := by
  unfold Punycode.digitChar
  split
  · rw [toNat_ofNat_of_lt (by omega)]
    exact denied_of_alnum (.inr ⟨by omega, by omega⟩)
  · rw [toNat_ofNat_of_lt (by omega)]
    exact denied_of_alnum (.inl ⟨by omega, by omega⟩)

/-- Every character of a name the host parser writes, labels in Punycode form included, is one a
host may hold: a label written as it is passed the check on the whole mapped text, and a Punycode
form adds only digits and the delimiter to the label's own basic code points. -/
theorem allowed_of_domainToAscii {bytes : List UInt8} {name : String}
    (h : domainToAscii bytes = some name) : ∀ c ∈ name.toList, denied c.toNat = false := by
  obtain ⟨labels, ascii, -, -, hallowed, -, hascii, rfl⟩ := domainToAscii_labels h
  intro c hc
  rw [String.toList_intercalate] at hc
  rcases mem_intercalate_singleton hc with rfl | ⟨p, hp, hcp⟩
  · decide
  obtain ⟨s, hs, rfl⟩ := List.mem_map.1 hp
  obtain ⟨label, hlabel, hlabelascii⟩ := exists_of_mapM_eq_some_right hascii hs
  have hbasic : ∀ x ∈ label, x < 0x80 → denied (Char.ofNat x).toNat = false := fun x hx hlt => by
    rw [toNat_ofNat_of_lt hlt]
    exact hallowed label hlabel x hx hlt
  unfold labelToAscii at hlabelascii
  split at hlabelascii
  · rename_i hall
    cases hlabelascii
    rw [String.toList_ofList] at hcp
    obtain ⟨x, hx, rfl⟩ := List.mem_map.1 hcp
    exact hbasic x hx (of_decide_eq_true (List.all_eq_true.1 hall x hx))
  · obtain ⟨encoded, hencoded, rfl⟩ := Option.map_eq_some_iff.1 hlabelascii
    simp only [String.toList_append, List.mem_append] at hcp
    rcases hcp with hprefix | hcp
    · -- the prefix `xn--`
      have hprefix : c = 'x' ∨ c = 'n' ∨ c = '-' := by simpa using hprefix
      rcases hprefix with rfl | rfl | rfl <;> decide
    · rcases Punycode.encode_writes hencoded c hcp with ⟨d, hd, rfl⟩ | rfl | ⟨x, hx, hlt, rfl⟩
      · exact denied_digitChar hd
      · decide
      · exact hbasic x hx hlt

end Idna

end WriteAccess.Url
