import WriteAccess.Proofs.DomainText
import WriteAccess.Proofs.Ipv6Text

/-!
# Hosts read back from their text

Every host the parser gives under a special scheme has a text that is read back whole when it
stands in an authority (`Host.Readable`): a domain name is made of characters a host may hold,
labels in Punycode form included, and an IPv6 address stands in brackets. Such a host, other than
a domain name with a label in Punycode form, is also read back as itself from its text
(`Host.parseSpecial_text`). For a domain name this is the second pass of the domain-name mapping:
a name with no label in Punycode form is made of domain characters and goes through unchanged.
For an IPv4 address it is the dotted decimal writer against the reader: four numbers of at most
255, the last one read as the last byte, the others as the bytes before it. For an IPv6 address
it is the round trip of `Proofs.Ipv6Text`.

A name with a label in Punycode form is read again through the Punycode decoder, which refuses
what it cannot take: that host need not come back.
-/

namespace WriteAccess.Url

open Idna

/-! ## Characters of host texts -/

/-- A character not denied in a host is visible and separates nothing in an authority. -/
theorem ne_of_not_denied {c : Char} (h : denied c.toNat = false) :
    ' ' < c ∧ c ≠ ':' ∧ c ≠ '/' ∧ c ≠ '?' ∧ c ≠ '#' ∧ c ≠ '\\' ∧ c ≠ '@' ∧ c ≠ '[' ∧
      c ≠ ']' := by
  simp only [denied, Bool.or_eq_false_iff, decide_eq_false_iff_not, Char.ofNat_toNat] at h
  obtain ⟨⟨hspace, -⟩, hsign⟩ := h
  refine ⟨?_, ?_, ?_, ?_, ?_, ?_, ?_, ?_, ?_⟩
  · rw [Char.lt_def, UInt32.lt_iff_toNat_lt]
    change 32 < c.toNat
    omega
  all_goals rintro rfl; simp at hsign

/-- A domain character is visible and separates nothing in an authority. -/
theorem ne_of_isDomainChar {c : Char} (h : isDomainChar c = true) :
    ' ' < c ∧ c ≠ ':' ∧ c ≠ '/' ∧ c ≠ '?' ∧ c ≠ '#' ∧ c ≠ '\\' ∧ c ≠ '@' ∧ c ≠ '[' ∧
      c ≠ ']' := by
  simp only [isDomainChar, Bool.and_eq_true, Bool.not_eq_true'] at h
  exact ne_of_not_denied h.2

/-- A decimal digit is a domain character. -/
theorem isDomainChar_of_isDigit {c : Char} (h : c.isDigit = true) : isDomainChar c = true := by
  obtain ⟨hlo, hhi⟩ := toNat_of_isDigit h
  have hlt : c.toNat < 0x80 := by omega
  have hcap : isCapital c.toNat = false := by simp [isCapital]; omega
  simp [isDomainChar, hlt, hcap, denied_of_alnum (.inl ⟨hlo, hhi⟩)]

/-- A scan over host characters with no separator and no bracket reads them all, up to the `:`
or `/` that follows. -/
theorem scanHost_of_plain {rest : List Char}
    (hrest : ∀ c, rest.head? = some c → c = ':' ∨ c = '/') :
    ∀ {cs : List Char}, (∀ c ∈ cs, c ≠ ':' ∧ c ≠ '/' ∧ c ≠ '?' ∧ c ≠ '#' ∧ c ≠ '\\' ∧
      c ≠ '[' ∧ c ≠ ']') → scanHost true false (cs ++ rest) = (cs, rest)
  | [], _ => by
    cases rest with
    | nil => rfl
    | cons c more =>
      rcases hrest c rfl with rfl | rfl <;> simp [scanHost]
  | c :: cs, h => by
    obtain ⟨h1, h2, h3, h4, h5, h6, h7⟩ := h c List.mem_cons_self
    rw [List.cons_append, scanHost, if_neg (by simp [h1, h2, h3, h4, h5]), if_neg h6, if_neg h7]
    simp only [scanHost_of_plain hrest fun x hx => h x (List.mem_cons_of_mem c hx)]

/-- A host whose text is non-empty and holds no character denied in a host is read back
whole. -/
theorem Host.Readable.of_allowed {h : Host} (hne : h.text.toList ≠ [])
    (hchars : ∀ c ∈ h.text.toList, denied c.toNat = false) : h.Readable where
  ne_nil := hne
  visible c hc := by
    obtain ⟨h0, -, h1, h2, h3, h4, h5, -⟩ := ne_of_not_denied (hchars c hc)
    exact ⟨h0, h1, h2, h3, h4, h5⟩
  scan rest hrest := scanHost_of_plain hrest fun c hc => by
    obtain ⟨-, h1, h2, h3, h4, h5, -, h6, h7⟩ := ne_of_not_denied (hchars c hc)
    exact ⟨h1, h2, h3, h4, h5, h6, h7⟩

/-- A host whose text is non-empty and made of domain characters is read back whole. -/
theorem Host.Readable.of_domainChars {h : Host} (hne : h.text.toList ≠ [])
    (hchars : ∀ c ∈ h.text.toList, isDomainChar c = true) : h.Readable :=
  Host.Readable.of_allowed hne fun c hc => by
    have := hchars c hc
    simp only [isDomainChar, Bool.and_eq_true, Bool.not_eq_true'] at this
    exact this.2

/-! ## IPv4 addresses -/

/-- The decimal digits of a number start with `0` only when the number is zero. -/
theorem eq_zero_of_toDigits_eq_cons {n : Nat} {rest : List Char}
    (h : Nat.toDigits 10 n = '0' :: rest) : n = 0 ∧ rest = [] := by
  induction n using Nat.strongRecOn generalizing rest with
  | ind n ih =>
    rw [Nat.toDigits_eq_if (by decide)] at h
    split at h
    · rename_i hn
      obtain ⟨hd, rfl⟩ := List.cons.inj h
      have := congrArg Char.toNat hd
      rw [Nat.toNat_digitChar_of_lt_ten hn] at this
      exact ⟨by simpa using this, rfl⟩
    · rename_i hn
      -- the leading digit is the leading digit of the number without its last digit
      obtain ⟨first, more, hfirst⟩ := List.exists_cons_of_ne_nil (Nat.toDigits_ne_nil (b := 10) (n := n / 10))
      rw [hfirst, List.cons_append, List.cons.injEq] at h
      rw [h.1] at hfirst
      have := (ih (n / 10) (by omega) hfirst).1
      omega

/-- A decimal digit is a digit of radix 10. -/
theorem digitIn_of_isDigit {c : Char} (h : c.isDigit = true) :
    digitIn 10 c = some (c.toNat - 48) := by
  have hhi := (toNat_of_isDigit h).2
  simp only [Char.isDigit, Bool.and_eq_true, decide_eq_true_eq] at h
  rw [digitIn, hexValue?, if_pos (show '0' ≤ c ∧ c ≤ '9' from ⟨h.1, h.2⟩)]
  simp only [if_pos (show c.toNat - 48 < 10 by omega)]

/-- Decimal digits read in radix 10 onto a value give the value they continue. -/
theorem numeralValue_foldl_digits :
    ∀ (ds : List Char) (v : Nat), (∀ d ∈ ds, d.isDigit = true) →
      ds.foldl (fun acc c => acc.bind fun n => (digitIn 10 c).map (n * 10 + ·)) (some v) =
        some (Nat.ofDigitChars 10 ds v)
  | [], v, _ => rfl
  | d :: ds, v, h => by
    rw [List.foldl_cons, Option.bind_some, digitIn_of_isDigit (h d List.mem_cons_self),
      Option.map_some, numeralValue_foldl_digits ds _ fun x hx => h x (List.mem_cons_of_mem d hx),
      Nat.ofDigitChars_cons, Nat.mul_comm]
    rfl

/-- A decimal numeral is read in radix 10 as its value. -/
theorem numeralValue_toDigits (n : Nat) : numeralValue 10 (Nat.toDigits 10 n) = some n := by
  unfold numeralValue
  rw [numeralValue_foldl_digits _ 0 fun d hd => Nat.isDigit_of_mem_toDigits (by decide)
    (by decide) hd, Nat.ofDigitChars_ten_toDigits]

/-- A number of 32 bits written in decimal is one part of an IPv4 address. -/
theorem ipv4Number_toDigits {n : Nat} (h : n ≤ u32Max) :
    ipv4Number (Nat.toDigits 10 n) = some (some n) := by
  have hne := Nat.toDigits_ne_nil (b := 10) (n := n)
  unfold ipv4Number
  rw [if_neg (by simp [hne])]
  -- the digits are read in decimal: a leading zero stands alone
  split
  next radix digits hpair =>
    split at hpair
    next rest heq => exact absurd (eq_zero_of_toDigits_eq_cons heq).2 (by simp)
    next rest heq => exact absurd (eq_zero_of_toDigits_eq_cons heq).2 (by simp)
    next rest _ _ heq =>
      obtain ⟨rfl, rfl⟩ := eq_zero_of_toDigits_eq_cons heq
      simp only [List.isEmpty_nil, if_true, Prod.mk.injEq] at hpair
      obtain ⟨rfl, rfl⟩ := hpair
      have hzero : numeralValue 10 ['0'] = some 0 := by
        rw [← heq]
        exact numeralValue_toDigits 0
      simp [hzero]
    next =>
      obtain ⟨rfl, rfl⟩ := Prod.mk.inj hpair
      simp [hne, numeralValue_toDigits, Nat.not_lt.2 h]

/-- The bytes of an IPv4 address, most significant first. -/
def ipv4Bytes (address : Nat) : List Nat :=
  [address / 2 ^ 24 % 256, address / 2 ^ 16 % 256, address / 2 ^ 8 % 256, address % 256]

/-- Numbers written in decimal and joined by dots are cut back into their numerals. -/
theorem dotParts_intercalate {ns : List Nat} (hne : ns ≠ []) :
    dotParts (".".intercalate (ns.map toString)) = ns.map (Nat.toDigits 10) := by
  have hdot : ∀ l ∈ ns.map (Nat.toDigits 10), '.' ∉ l := by
    intro l hl hdot
    obtain ⟨n, -, rfl⟩ := List.mem_map.1 hl
    have := Nat.isDigit_of_mem_toDigits (by decide) (by decide) hdot
    exact absurd this (by decide)
  unfold dotParts
  rw [String.toList_intercalate, List.map_map]
  have hdigits : (String.toList ∘ toString : Nat → List Char) = Nat.toDigits 10 := by
    funext n
    simp [Nat.toString_eq_repr, Nat.toList_repr]
  rw [hdigits]
  exact List.splitOn_intercalate '.' hdot (by simpa using hne)

/-- The dotted decimal text of an address is cut into the numerals of its bytes. -/
theorem dotParts_ipv4Text (address : Nat) :
    dotParts (ipv4Text address) = (ipv4Bytes address).map (Nat.toDigits 10) :=
  dotParts_intercalate (by simp)

/-- The parts of an IPv4 address give numbers one for one. -/
theorem ipv4Numbers_length : ∀ {parts : List (List Char)} {numbers : List Nat},
    ipv4Numbers parts = some numbers → numbers.length = parts.length
  | [], numbers, h => by
    simp only [ipv4Numbers, Option.some.injEq] at h
    subst h
    rfl
  | part :: rest, numbers, h => by
    unfold ipv4Numbers at h
    split at h
    · rename_i n ns _ hrest
      cases h
      simp [ipv4Numbers_length hrest]
    · cases h

/-- Every number of an IPv4 address is read from its part. -/
theorem ipv4Numbers_map {ns : List Nat} (h : ∀ n ∈ ns, n ≤ u32Max) :
    ipv4Numbers (ns.map (Nat.toDigits 10)) = some ns := by
  induction ns with
  | nil => rfl
  | cons n rest ih =>
    rw [List.map_cons, ipv4Numbers, ipv4Number_toDigits (h n List.mem_cons_self),
      ih fun x hx => h x (List.mem_cons_of_mem n hx)]

/-- An IPv4 address written in dotted decimal is read back as the same address. -/
theorem parseIpv4_ipv4Text {address : Nat} (h : address ≤ u32Max) :
    parseIpv4 (ipv4Text address) = .ok address := by
  have hbytes : ∀ n ∈ ipv4Bytes address, n ≤ u32Max := by
    simp only [ipv4Bytes, List.mem_cons, List.not_mem_nil, or_false, u32Max]
    omega
  have hlast : ((ipv4Bytes address).map (Nat.toDigits 10)).getLast? ≠ some [] := by
    simp [ipv4Bytes, Nat.toDigits_ne_nil]
  unfold parseIpv4
  simp only [dotParts_ipv4Text, if_neg hlast, ipv4Numbers_map hbytes]
  simp only [ipv4Bytes, u32Max] at h ⊢
  simp
  rw [if_neg (by omega), if_neg (by omega)]
  congr 1
  omega

/-- A parsed IPv4 address fits 32 bits: the last number fills the bytes the others leave. -/
theorem parseIpv4_le {name : String} {address : Nat} (h : parseIpv4 name = .ok address) :
    address ≤ u32Max := by
  unfold parseIpv4 at h
  dsimp only at h
  generalize (if (dotParts name).getLast? = some [] then (dotParts name).dropLast
    else dotParts name) = parts at h
  split at h
  · cases h
  rename_i hlen
  split at h
  · cases h
  rename_i numbers hnumbers
  have hcount := ipv4Numbers_length hnumbers
  -- the cases are the lengths one to four
  rcases numbers with _ | ⟨a, _ | ⟨b, _ | ⟨c, _ | ⟨d, _ | ⟨e, rest⟩⟩⟩⟩⟩
  · simp at h
  · -- one number is the whole address
    simp only [List.getLast?_singleton, List.dropLast_singleton, List.length_nil, Nat.pow_eq,
      Nat.pow_zero, Nat.div_one, List.any_nil, List.zipIdx_nil, List.map_nil, List.foldr_nil] at h
    split at h
    · cases h
    · simp at h
      omega
  rotate_right
  · -- five or more parts were refused before they were read
    simp at hcount
    omega
  -- two to four numbers: the bytes before the last are checked, and the last fills the rest
  all_goals
    simp [u32Max] at h
    split at h
    · cases h
    · split at h
      · cases h
      · simp at h
        simp only [u32Max]
        omega

/-- A label in Punycode form starts with `x`. -/
theorem head_of_isPunycodeLabel {label : List Char} (h : isPunycodeLabel label = true) :
    label.head? = some 'x' := by
  unfold isPunycodeLabel at h
  split at h
  · rfl
  · cases h

/-- The dotted decimal text of an address is made of digits and dots. -/
theorem mem_ipv4Text {address : Nat} {c : Char} (h : c ∈ (ipv4Text address).toList) :
    c = '.' ∨ c.isDigit = true := by
  unfold ipv4Text at h
  rw [String.toList_intercalate] at h
  rcases mem_intercalate_singleton h with rfl | ⟨p, hp, hc⟩
  · exact .inl rfl
  · rw [List.map_map] at hp
    obtain ⟨n, -, rfl⟩ := List.mem_map.1 hp
    simp only [Function.comp_apply, Nat.toString_eq_repr, Nat.toList_repr] at hc
    exact .inr (Nat.isDigit_of_mem_toDigits (by decide) (by decide) hc)

/-- The dotted decimal text of an address is made of domain characters. -/
theorem ipv4Text_domainChars (address : Nat) :
    ∀ c ∈ (ipv4Text address).toList, isDomainChar c = true := by
  intro c hc
  rcases mem_ipv4Text hc with rfl | hdigit
  · rfl
  · exact isDomainChar_of_isDigit hdigit

/-- No label of a dotted decimal address is in Punycode form. -/
theorem hasPunycodeLabel_ipv4Text (address : Nat) : hasPunycodeLabel (ipv4Text address) = false := by
  have hparts : hasPunycodeLabel (ipv4Text address) =
      ((ipv4Bytes address).map (Nat.toDigits 10)).any isPunycodeLabel := by
    rw [← dotParts_ipv4Text]
    rfl
  rw [hparts, List.any_eq_false]
  intro label hlabel hpuny
  obtain ⟨n, -, rfl⟩ := List.mem_map.1 hlabel
  have hx := List.mem_of_head? (head_of_isPunycodeLabel hpuny)
  exact absurd (Nat.isDigit_of_mem_toDigits (by decide) (by decide) hx) (by decide)

/-- A dotted decimal address ends in a number. -/
theorem endsInNumber_ipv4Text (address : Nat) : endsInNumber (ipv4Text address) = true := by
  obtain ⟨c, cs, hlast⟩ := List.exists_cons_of_ne_nil
    (Nat.toDigits_ne_nil (b := 10) (n := address % 256))
  have hdigits : ∀ d ∈ c :: cs, d.isDigit = true := fun d hd =>
    Nat.isDigit_of_mem_toDigits (by decide) (by decide) (hlast ▸ hd)
  unfold endsInNumber
  simp only [dotParts_ipv4Text, ipv4Bytes, List.map_cons, List.map_nil, List.reverse_cons,
    List.reverse_nil, List.nil_append, List.cons_append, hlast]
  simp [List.all_eq_true.2 hdigits]

/-- The host the dotted decimal text of an address of 32 bits stands for is that address. -/
theorem Host.parseSpecial_ipv4Text {address : Nat} (h : address ≤ u32Max) :
    Host.parseSpecial (ipv4Text address).toList = .ok (.ipv4 address) := by
  have hne : (ipv4Text address).toList ≠ [] := by
    simp [ipv4Text, Nat.toString_eq_repr, Nat.toList_repr]
  have hhead : (ipv4Text address).toList.head? ≠ some '[' := by
    intro hhead
    rcases mem_ipv4Text (List.mem_of_head? hhead) with hc | hc <;> revert hc <;> decide
  have hname := domainToAscii_of_plain (ipv4Text_domainChars address)
    (hasPunycodeLabel_ipv4Text address)
  have hempty : ipv4Text address ≠ "" := fun h => hne (by rw [h]; rfl)
  unfold Host.parseSpecial
  rw [if_neg hhead, String.ofList_toList, hname]
  simp [endsInNumber_ipv4Text, parseIpv4_ipv4Text h, Except.map]

/-! ## Hosts read back -/

/-- Whether a host is a domain name with a label in Punycode form. -/
def Host.isPunycodeDomain : Host → Bool
  | .domain name => hasPunycodeLabel name
  | _ => false

/-- What the host parser gives under a special scheme: an IPv6 address read between brackets,
or the name the domain-name mapping writes, kept as a domain when its last label is not a number
and read as an IPv4 address when it is. -/
theorem Host.parseSpecial_eq_ok {cs : List Char} {h : Host} (hp : Host.parseSpecial cs = .ok h) :
    (∃ pieces, h = .ipv6 pieces ∧ parseIpv6 ((cs.drop 1).dropLast) = .ok pieces) ∨
    ∃ name, domainToAscii (decodeText (String.ofList cs)) = some name ∧ name ≠ "" ∧
      ((endsInNumber name = false ∧ h = .domain name) ∨
        ∃ address, parseIpv4 name = .ok address ∧ h = .ipv4 address) := by
  unfold Host.parseSpecial at hp
  split at hp
  · unfold bracketed at hp
    split at hp
    · cases hv6 : parseIpv6 ((cs.drop 1).dropLast) with
      | error e =>
        rw [hv6] at hp
        cases hp
      | ok pieces =>
        rw [hv6] at hp
        exact .inl ⟨pieces, (Except.ok.inj hp).symm, rfl⟩
    · cases hp
  · split at hp
    · cases hp
    · cases hp
    · rename_i name hempty hname
      refine .inr ⟨name, hname, hempty, ?_⟩
      split at hp
      · rename_i hnumber
        cases hv4 : parseIpv4 name with
        | error e => simp [hv4, Except.map] at hp
        | ok address =>
          simp only [hv4, Except.map, Except.ok.injEq] at hp
          exact .inr ⟨address, rfl, hp.symm⟩
      · rename_i hnumber
        exact .inl ⟨by simpa using hnumber, (Except.ok.inj hp).symm⟩

/-- A name of domain characters, not empty, with no label in Punycode form and a last label
that is not a number, is read as that domain. -/
theorem Host.parseSpecial_plain_domain {name : String}
    (hchars : ∀ c ∈ name.toList, isDomainChar c = true) (hne : name.toList ≠ [])
    (hplain : hasPunycodeLabel name = false) (hnumber : endsInNumber name = false) :
    Host.parseSpecial name.toList = .ok (.domain name) := by
  -- the parser refuses an empty name first; simp reads that test off this
  have hempty : name ≠ "" := fun h => hne (by rw [h]; rfl)
  have hhead : name.toList.head? ≠ some '[' := fun hhead =>
    (ne_of_isDomainChar (hchars '[' (List.mem_of_head? hhead))).2.2.2.2.2.2.2.1 rfl
  unfold Host.parseSpecial
  rw [if_neg hhead, String.ofList_toList, domainToAscii_of_plain hchars hplain]
  simp [hnumber]

/-- A domain name the host parser gives, with no label in Punycode form, is read back as
itself. -/
theorem Host.parseSpecial_domain_text {cs : List Char} {name : String}
    (hp : Host.parseSpecial cs = .ok (.domain name)) (hplain : hasPunycodeLabel name = false) :
    Host.parseSpecial name.toList = .ok (.domain name) := by
  rcases Host.parseSpecial_eq_ok hp with ⟨pieces, hh, -⟩ |
    ⟨name', hname, hempty, ⟨hnumber, hh⟩ | ⟨address, -, hh⟩⟩
  · cases hh
  · -- the parser kept the name the mapping wrote as the domain
    cases hh
    have hne : name.toList ≠ [] := fun h => hempty (String.toList_inj.1 (by simpa using h))
    exact Host.parseSpecial_plain_domain (domainChars_of_domainToAscii hname hplain) hne hplain
      hnumber
  · cases hh

/-- A domain name the host parser writes is read back whole in an authority, labels in Punycode
form included. -/
theorem Host.Readable.of_domainToAscii {bytes : List UInt8} {name : String}
    (hname : domainToAscii bytes = some name) (hempty : name ≠ "") : (Host.domain name).Readable :=
  Host.Readable.of_allowed (fun h => hempty (String.toList_inj.1 (by simpa [Host.text] using h)))
    (allowed_of_domainToAscii hname)

/-- The dotted decimal text of an address is read back whole in an authority. -/
theorem Host.Readable.ipv4 (address : Nat) : (Host.ipv4 address).Readable := by
  refine Host.Readable.of_domainChars ?_ (ipv4Text_domainChars address)
  simp [Host.text, ipv4Text, Nat.toString_eq_repr, Nat.toList_repr]

/-- Whether a host is read back as itself from its text under a special scheme. -/
def Host.Rereads (h : Host) : Prop := Host.parseSpecial h.text.toList = .ok h

/-- Every host the parser gives under a special scheme is read back whole in an authority, and
one that is not a domain name with a label in Punycode form is read back as itself: an IPv6
address, an IPv4 address, or a domain name of domain characters. -/
theorem Host.parseSpecial_text {cs : List Char} {h : Host} (hp : Host.parseSpecial cs = .ok h) :
    h.Readable ∧ (h.isPunycodeDomain = false → h.Rereads) := by
  rcases Host.parseSpecial_eq_ok hp with ⟨pieces, rfl, hv6⟩ | ⟨name, hname, hempty, hcases⟩
  · obtain ⟨hlen, hsmall⟩ := parseIpv6_sound hv6
    exact ⟨Host.Readable.ipv6 pieces, fun _ => Host.parseSpecial_ipv6Text hlen hsmall⟩
  rcases hcases with ⟨-, rfl⟩ | ⟨address, haddress, rfl⟩
  · exact ⟨Host.Readable.of_domainToAscii hname hempty,
      fun hpuny => Host.parseSpecial_domain_text hp hpuny⟩
  · exact ⟨Host.Readable.ipv4 address,
      fun _ => Host.parseSpecial_ipv4Text (parseIpv4_le haddress)⟩

end WriteAccess.Url
