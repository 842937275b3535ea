import WriteAccess.Proofs.HostText

/-!
# URLs as the parser leaves them

What the parser gives under the scheme `http` or `https`, whatever the input: an authority whose
credentials hold only characters the userinfo set keeps, whose host is one the host parser gave
and whose port fits 16 bits and is not the scheme's default; and a path of at least one segment,
every segment plain (`PlainSegment`): characters the path set keeps, no slash or backslash, and
neither `.` nor `..` in any spelling (`parse_parsed`).

Each comes from the reader that writes it. The path reader cuts the path at the separators,
encodes each piece and drops or resolves the dot segments, and its last step always adds a
segment. The port reader stops at 65535 and forgets the default port.
-/

namespace WriteAccess.Url

/-! ## Path segments -/

/-- The empty segment is plain. -/
theorem PlainSegment.empty : PlainSegment "" where
  keeps := by simp
  no_slash := by simp
  no_backslash := by simp
  not_single_dot := by decide +kernel
  not_double_dot := by decide +kernel

/-- The code of a hex digit: `0` to `9`, then `A` to `F`. -/
theorem toNat_hexDigit {n : Nat} (hn : n < 16) :
    (hexDigit n).toNat = if n < 10 then 48 + n else 55 + n := by
  unfold hexDigit
  split <;> rw [toNat_ofNat_of_lt (by omega)]

/-- A hex digit is neither a slash nor a backslash. -/
theorem hexDigit_ne_slash {n : Nat} (hn : n < 16) : hexDigit n ≠ '/' ∧ hexDigit n ≠ '\\' := by
  have h := toNat_hexDigit hn
  constructor <;> intro heq <;> rw [heq] at h <;> split at h <;> simp at h <;> omega

/-- A piece without separators, once encoded, is plain unless it spells a dot segment. -/
theorem PlainSegment.encodeChars {raw : List Char} (hslash : '/' ∉ raw) (hback : '\\' ∉ raw)
    (hsingle : isSingleDot (encodeChars .path raw) = false)
    (hdouble : isDoubleDot (encodeChars .path raw) = false) :
    PlainSegment (encodeChars .path raw) where
  keeps _ hc := keeps_of_mem_encodeChars hc
  no_slash hc := by
    rcases mem_encodeChars hc with ⟨hc, -⟩ | hc | ⟨n, hn, hc⟩
    · exact hslash hc
    · cases hc
    · exact (hexDigit_ne_slash hn).1 hc.symm
  no_backslash hc := by
    rcases mem_encodeChars hc with ⟨hc, -⟩ | hc | ⟨n, hn, hc⟩
    · exact hback hc
    · cases hc
    · exact (hexDigit_ne_slash hn).2 hc.symm
  not_single_dot := hsingle
  not_double_dot := hdouble

/-- A piece the path is cut into holds no separator: what it holds was in the text, or already
read. -/
theorem mem_of_mem_splitSegments {sep : Char → Bool} {c : Char} :
    ∀ {cs acc piece : List Char}, piece ∈ splitSegments sep cs acc → c ∈ piece →
      (c ∈ cs ∧ sep c = false) ∨ c ∈ acc
  | [], acc, piece, hpiece, hc => by
    simp only [splitSegments, List.mem_singleton] at hpiece
    subst hpiece
    exact .inr (List.mem_reverse.1 hc)
  | x :: rest, acc, piece, hpiece, hc => by
    rw [splitSegments] at hpiece
    split at hpiece
    · rcases List.mem_cons.1 hpiece with rfl | hpiece
      · exact .inr (List.mem_reverse.1 hc)
      · rcases mem_of_mem_splitSegments hpiece hc with ⟨h, hsep⟩ | h
        · exact .inl ⟨List.mem_cons_of_mem x h, hsep⟩
        · simp at h
    · rename_i hnot
      rcases mem_of_mem_splitSegments hpiece hc with ⟨h, hsep⟩ | h
      · exact .inl ⟨List.mem_cons_of_mem x h, hsep⟩
      · rcases List.mem_cons.1 h with rfl | h
        · exact .inl ⟨List.mem_cons_self, by simpa using hnot⟩
        · exact .inr h

/-- Cutting at the separators gives at least one piece. -/
theorem splitSegments_ne_nil (sep : Char → Bool) : ∀ (cs acc : List Char), splitSegments sep cs acc ≠ []
  | [], _ => by simp [splitSegments]
  | c :: rest, acc => by
    rw [splitSegments]
    split
    · simp
    · exact splitSegments_ne_nil sep rest (c :: acc)

/-- The path without its last segment keeps only segments it had. -/
theorem mem_of_mem_shortenPath {path : List String} {s : String} (h : s ∈ shortenPath path) :
    s ∈ path := by
  unfold shortenPath at h
  split at h
  · split at h
    · exact h
    · exact (List.dropLast_sublist path).subset h
  · exact h

/-- One step of the path reader, on a piece without separators, keeps every segment plain, and
a last step leaves at least one segment. -/
theorem pathStep_plain_of {path : List String} (drive : Bool) {raw : List Char}
    (separatorAfter : Bool) (hpath : ∀ s ∈ path, PlainSegment s) (hslash : '/' ∉ raw)
    (hback : '\\' ∉ raw) :
    (∀ s ∈ (pathStep false (path, drive) raw separatorAfter).1, PlainSegment s) ∧
      (separatorAfter = false → (pathStep false (path, drive) raw separatorAfter).1 ≠ []) := by
  have hadd : ∀ t, PlainSegment t → ∀ s ∈ path ++ [t], PlainSegment s := by
    intro t ht s hs
    rcases List.mem_append.1 hs with hs | hs
    · exact hpath s hs
    · rw [List.mem_singleton.1 hs]
      exact ht
  unfold pathStep
  dsimp only
  split
  · -- a `..` segment drops the last segment, and adds an empty one when it ends the path
    have hshort : ∀ s ∈ shortenPath path, PlainSegment s := fun s hs =>
      hpath s (mem_of_mem_shortenPath hs)
    cases separatorAfter
    · refine ⟨fun s hs => ?_, fun _ => by simp⟩
      rcases List.mem_append.1 hs with hs | hs
      · exact hshort s hs
      · rw [List.mem_singleton.1 hs]
        exact PlainSegment.empty
    · exact ⟨hshort, fun h => absurd h (by simp)⟩
  · rename_i hdouble
    split
    · cases separatorAfter
      · exact ⟨hadd "" PlainSegment.empty, fun _ => by simp⟩
      · exact ⟨hpath, fun h => absurd h (by simp)⟩
    · rename_i hsingle
      rw [if_neg (by simp)]
      refine ⟨hadd _ (PlainSegment.encodeChars hslash hback (by simpa using hsingle)
        (by simpa using hdouble)), fun _ => by simp⟩

/-- The path reader, over pieces without separators, leaves at least one segment, every one
plain. -/
theorem applySegments_plain_of :
    ∀ {st : List String × Bool} {raws : List (List Char)}, (∀ s ∈ st.1, PlainSegment s) →
      (∀ raw ∈ raws, '/' ∉ raw ∧ '\\' ∉ raw) → raws ≠ [] →
        (∀ s ∈ (applySegments false st raws).1, PlainSegment s) ∧
          (applySegments false st raws).1 ≠ []
  | _, [], _, _, hne => absurd rfl hne
  | (path, drive), [raw], hpath, hraws, _ => by
    obtain ⟨hslash, hback⟩ := hraws raw List.mem_cons_self
    obtain ⟨hplain, hne⟩ := pathStep_plain_of drive false hpath hslash hback
    exact ⟨hplain, hne rfl⟩
  | (path, drive), raw :: next :: rest, hpath, hraws, _ => by
    obtain ⟨hslash, hback⟩ := hraws raw List.mem_cons_self
    rw [applySegments]
    · exact applySegments_plain_of (pathStep_plain_of drive true hpath hslash hback).1
        (fun r hr => hraws r (List.mem_cons_of_mem raw hr)) (List.cons_ne_nil next rest)
    · exact List.cons_ne_nil next rest

/-- The path of a special URL, read from any text, has at least one segment, every one plain. -/
theorem readPath_plain_of (input : List Char) :
    (∀ s ∈ (readPath true false [] input).1, PlainSegment s) ∧
      (readPath true false [] input).1 ≠ [] := by
  unfold readPath
  dsimp only
  generalize input.span (fun c => c != '?' && c != '#') = cut
  obtain ⟨text, rest⟩ := cut
  dsimp only
  have hpieces : ∀ raw ∈ splitSegments (fun c => c = '/' || (true && c = '\\')) text [],
      '/' ∉ raw ∧ '\\' ∉ raw := by
    refine fun raw hraw => ⟨fun hc => ?_, fun hc => ?_⟩ <;>
    · rcases mem_of_mem_splitSegments hraw hc with ⟨-, hsep⟩ | hnil
      · simp at hsep
      · simp at hnil
  exact applySegments_plain_of (by simp) hpieces (splitSegments_ne_nil _ _ _)

/-! ## Ports -/

/-- A port the reader gives fits 16 bits and is not the scheme's default. -/
theorem readPort_port {scheme : String} {port : Option Nat} :
    ∀ {value : Nat} {anyDigit : Bool} {cs rest : List Char}, value ≤ 65535 →
      readPort scheme value anyDigit cs = .ok (port, rest) →
        ∀ p, port = some p → p ≤ 65535 ∧ defaultPort scheme ≠ some p
  | value, anyDigit, [], rest, hvalue, h, p, hp => by
    simp only [readPort, Except.ok.injEq, Prod.mk.injEq] at h
    obtain ⟨hport, -⟩ := h
    subst hport
    split at hp
    · cases hp
    · rename_i hcond
      cases hp
      simp only [Bool.or_eq_true, Bool.not_eq_true', decide_eq_true_eq, not_or] at hcond
      exact ⟨hvalue, fun h => hcond.2 h.symm⟩
  | value, anyDigit, c :: more, rest, hvalue, h, p, hp => by
    rw [readPort] at h
    dsimp only at h
    split at h
    · split at h
      · cases h
      · rename_i hv
        exact readPort_port (Nat.le_of_not_lt hv) h p hp
    · split at h
      · simp only [Except.ok.injEq, Prod.mk.injEq] at h
        obtain ⟨hport, -⟩ := h
        subst hport
        split at hp
        · cases hp
        · rename_i hcond
          cases hp
          simp only [Bool.or_eq_true, Bool.not_eq_true', decide_eq_true_eq, not_or] at hcond
          exact ⟨hvalue, fun h => hcond.2 h.symm⟩
      · cases h

/-- A bind that succeeds had a first step that succeeded. -/
theorem exists_of_bind_eq_ok {ε α β : Type} {x : Except ε α} {f : α → Except ε β} {b : β}
    (h : x >>= f = .ok b) : ∃ a, x = .ok a ∧ f a = .ok b := by
  cases x with
  | error e => cases h
  | ok a => exact ⟨a, rfl, h⟩

/-! ## Authorities -/

/-- The credentials of a userinfo are written in characters the userinfo set keeps. -/
theorem credentialsOf_keeps (info : List Char) :
    (∀ c ∈ (credentialsOf info).1.toList, EncodeSet.userinfo.keeps c = true) ∧
      ∀ c ∈ (credentialsOf info).2.toList, EncodeSet.userinfo.keeps c = true := by
  unfold credentialsOf
  split
  · exact ⟨fun c hc => keeps_of_mem_encodeChars hc, fun c hc => by simp at hc⟩
  · exact ⟨fun c hc => keeps_of_mem_encodeChars hc, fun c hc => keeps_of_mem_encodeChars hc⟩

/-- The credentials read before a host are written in characters the userinfo set keeps. -/
theorem readCredentials_keeps {input auth afterAuth rest : List Char} {user password : String}
    (h : readCredentials input auth afterAuth = .ok (user, password, rest)) :
    (∀ c ∈ user.toList, EncodeSet.userinfo.keeps c = true) ∧
      ∀ c ∈ password.toList, EncodeSet.userinfo.keeps c = true := by
  unfold readCredentials at h
  split at h
  · cases h
    simp
  · split at h
    · cases h
    · cases h
      simp
  · next info after _ _ =>
    have hkeeps := credentialsOf_keeps info
    generalize credentialsOf info = cred at h hkeeps
    cases h
    exact hkeeps

/-- An authority as the parser leaves it under a special scheme, before its host is written
back: credentials of characters the userinfo set keeps, a host the host parser gave, and a port
that fits 16 bits and is not the scheme's default. -/
structure Authority.Parsed (scheme : String) (a : Authority) : Prop where
  username : ∀ c ∈ a.username.toList, EncodeSet.userinfo.keeps c = true
  password : ∀ c ∈ a.password.toList, EncodeSet.userinfo.keeps c = true
  host : ∃ cs, Host.parseSpecial cs = .ok a.host
  port : ∀ p, a.port = some p → p ≤ 65535 ∧ defaultPort scheme ≠ some p

/-- A URL as the parser leaves it under a special scheme: such an authority, and a path of at
least one segment, every one plain. -/
structure Parsed (u : Url) : Prop where
  authority : ∃ a, u.authority = some a ∧ a.Parsed u.scheme
  path : ∃ items, u.path = .segments items ∧ items ≠ [] ∧ ∀ s ∈ items, PlainSegment s

/-- The host of an authority under a special scheme is one the host parser gave. -/
theorem readHost_special {hostChars : List Char} {host : Host}
    (h : readHost true hostChars = .ok host) : Host.parseSpecial hostChars = .ok host := by
  unfold readHost at h
  rw [if_pos rfl] at h
  split at h
  · cases h
  · exact h

/-- A port read after a host fits 16 bits and is not the scheme's default. -/
theorem readPortAfter_port {scheme : String} {afterHost afterPort : List Char}
    {port : Option Nat} (h : readPortAfter scheme afterHost = .ok (port, afterPort)) :
    ∀ p, port = some p → p ≤ 65535 ∧ defaultPort scheme ≠ some p := by
  unfold readPortAfter at h
  split at h
  · exact readPort_port (Nat.zero_le _) h
  · intro p hp
    cases h
    cases hp

/-- The path after an authority under a special scheme has at least one segment, every one
plain. -/
theorem readAuthorityPath_plain (afterPort : List Char) :
    (∀ s ∈ (readAuthorityPath true afterPort).1, PlainSegment s) ∧
      (readAuthorityPath true afterPort).1 ≠ [] := by
  obtain ⟨x, hx⟩ : ∃ x, (readAuthorityPath true afterPort).1 = (readPath true false [] x).1 := by
    cases afterPort with
    | nil => exact ⟨[], rfl⟩
    | cons c more => exact ⟨_, rfl⟩
  rw [hx]
  exact readPath_plain_of x

/-- What the authority reader gives: the credentials, the host, the port and the path, each
read by its own reader from what the one before it left. -/
theorem parseAuthority_eq_ok {scheme : String} {input : List Char} {u : Url}
    (h : parseAuthority scheme input = .ok u) :
    ∃ auth afterAuth user password rest host port afterPort segments afterPath,
      readCredentials input auth afterAuth = .ok (user, password, rest) ∧
      readHost (isSpecialScheme scheme) (scanHost (isSpecialScheme scheme) false rest).1 =
        .ok host ∧
      readPortAfter scheme (scanHost (isSpecialScheme scheme) false rest).2 =
        .ok (port, afterPort) ∧
      readAuthorityPath (isSpecialScheme scheme) afterPort = (segments, afterPath) ∧
      u = { scheme, authority := some ⟨user, password, host, port⟩, path := .segments segments,
            query := (readQueryAndFragment (isSpecialScheme scheme) afterPath).1,
            fragment := (readQueryAndFragment (isSpecialScheme scheme) afterPath).2 } := by
  unfold parseAuthority at h
  obtain ⟨⟨user, password, rest⟩, hcred, h⟩ := exists_of_bind_eq_ok h
  obtain ⟨host, hhost, h⟩ := exists_of_bind_eq_ok h
  obtain ⟨⟨⟩, -, h⟩ := exists_of_bind_eq_ok h
  obtain ⟨⟨port, afterPort⟩, hport, h⟩ := exists_of_bind_eq_ok h
  obtain ⟨⟨⟩, -, h⟩ := exists_of_bind_eq_ok h
  generalize hpath : readAuthorityPath (isSpecialScheme scheme) afterPort = pathRead at h
  obtain ⟨segments, afterPath⟩ := pathRead
  cases h
  exact ⟨_, _, user, password, rest, host, port, afterPort, segments, afterPath, hcred, hhost,
    hport, hpath, rfl⟩

/-- The authority reader keeps the scheme it is given. -/
theorem parseAuthority_scheme {scheme : String} {input : List Char} {u : Url}
    (h : parseAuthority scheme input = .ok u) : u.scheme = scheme := by
  obtain ⟨-, -, -, -, -, -, -, -, -, -, -, -, -, -, rfl⟩ := parseAuthority_eq_ok h
  rfl

/-- What follows the slashes, under a special scheme, is read as such a URL. -/
theorem parseAuthority_parsed {scheme : String} (hspecial : isSpecialScheme scheme = true)
    {input : List Char} {u : Url} (h : parseAuthority scheme input = .ok u) : u.Parsed := by
  obtain ⟨_, _, user, password, rest, host, port, afterPort, segments, afterPath, hcred, hhost,
    hport, hpath, rfl⟩ := parseAuthority_eq_ok h
  rw [hspecial] at hhost hpath
  obtain ⟨husername, hpassword⟩ := readCredentials_keeps hcred
  have hplain := readAuthorityPath_plain afterPort
  rw [hpath] at hplain
  refine ⟨⟨_, rfl, ?_⟩, ⟨segments, rfl, hplain.2, hplain.1⟩⟩
  exact ⟨husername, hpassword, ⟨_, readHost_special hhost⟩, readPortAfter_port hport⟩

/-! ## Whole URLs -/

/-- A scheme that is not special stays the scheme of what is read after it. -/
theorem parseNonSpecial_scheme {scheme : String} {rest : List Char} {u : Url}
    (h : parseNonSpecial scheme rest = .ok u) : u.scheme = scheme := by
  unfold parseNonSpecial at h
  split at h
  · exact parseAuthority_scheme h
  · cases h
    rfl
  · cases h
    rfl

/-- A `file` URL is a `file` URL. -/
theorem fileUrl_scheme (host : Host) (segments : List String) (rest : List Char) :
    (fileUrl host segments rest).scheme = "file" := rfl

/-- Without a base, what follows `file:` is read as a `file` URL. -/
theorem parseFile_scheme {input : List Char} {u : Url} (h : parseFile none input = .ok u) :
    u.scheme = "file" := by
  -- every way through the reader ends in `fileUrl`
  have hhost : ∀ {more : List Char}, parseFileHost more = .ok u → u.scheme = "file" := by
    intro more hmore
    simp only [parseFileHost, bind, Except.bind, pure, Except.pure] at hmore
    split at hmore
    · cases hmore
      exact fileUrl_scheme _ _ _
    · split at hmore
      · cases hmore
        exact fileUrl_scheme _ _ _
      · split at hmore
        · cases hmore
        · cases hmore
          exact fileUrl_scheme _ _ _
  have hslash : ∀ {rest : List Char}, parseFile.parseFileSlash none rest = .ok u →
      u.scheme = "file" := by
    intro rest hrest
    cases hrest
    exact fileUrl_scheme _ _ _
  have hnoslash : ∀ {rest : List Char}, parseFile.parseFileNoSlash none rest = .ok u →
      u.scheme = "file" := by
    intro rest hrest
    cases hrest
    exact fileUrl_scheme _ _ _
  unfold parseFile at h
  dsimp only at h
  split at h
  · split at h
    · split at h
      · split at h
        · exact hhost h
        · exact hslash h
      · exact hslash h
    · exact hnoslash h
  · exact hnoslash h

/-- Whatever the input, a URL the parser reads under `http` or `https` has an authority with a
host the host parser gave, credentials and a port as the parser writes them, and a path of at
least one plain segment. -/
theorem parse_parsed {input : String} {u : Url} (h : parse input = .ok u)
    (hscheme : u.scheme = "http" ∨ u.scheme = "https") : u.Parsed := by
  have hspecial : isSpecialScheme u.scheme = true := by
    rcases hscheme with hs | hs <;> rw [hs] <;> decide
  unfold parse parseWith at h
  dsimp only at h
  split at h
  · rename_i scheme rest _
    split at h
    · rcases hscheme with hs | hs <;> rw [parseFile_scheme h] at hs <;> exact absurd hs (by decide)
    · split at h
      · exact parseAuthority_parsed (by rwa [parseAuthority_scheme h] at hspecial) h
      · rename_i hnot
        rw [parseNonSpecial_scheme h] at hspecial
        exact absurd hspecial hnot
  · cases h

end WriteAccess.Url
