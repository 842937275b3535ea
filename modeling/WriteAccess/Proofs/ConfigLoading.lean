import WriteAccess.Config
import WriteAccess.Proofs.KeyListing

/-!
# Loading the configuration from the environment

`Config.ofLookup` reads four variables and nothing else (`ofLookup_congr`). Bypass is on exactly
when `BYPASS_RBAC` trims to `true`; the trusted keys are the comma-separated listing of
`SOURCES_PSKS`, or none when it is unset; the application is `RBAC_APPLICATION` trimmed unless it
is blank, else `sources`. These settings do not depend on the URL (`requested`). A non-blank
`RBAC_URL` is parsed trimmed: a text that does not parse fails the whole load with an error that
carries the trimmed text, and a blank or missing one leaves the configuration without a service.

What is logged follows from the outcome alone (`ofLookup_events`): nothing on failure; on success
a warning when the configuration has neither a service nor bypass, then the summary of what was
loaded. A blank value is one that trims to nothing (`Text.trimBlanks_eq_empty_iff`).
-/

namespace WriteAccess

namespace Text

/-- A text trims to nothing exactly when it holds nothing but blanks. -/
theorem trimBlanks_eq_empty_iff (s : String) : trimBlanks s = "" ↔ isAllBlank s = true := by
  obtain ⟨pre, post, hs, hpre, hpost, hhead, -⟩ := trimBlanks_spec s
  rw [← String.toList_inj, String.toList_empty, isAllBlank, List.all_eq_true]
  constructor
  · intro ht c hc
    rw [hs, ht, List.append_nil, List.mem_append] at hc
    exact hc.elim (hpre c) (hpost c)
  · intro hall
    cases ht : (trimBlanks s).toList with
    | nil => rfl
    | cons a rest =>
      -- the first character kept is not blank, yet every character of the text is
      have hkept : isBlank a = false := hhead a (by simp [ht])
      have hblank : isBlank a = true := hall a (by rw [hs, ht]; simp)
      simp [hkept] at hblank

end Text

namespace Config

/-! ## Values that are not blank -/

theorem nonBlank_eq_some_iff {value : Option String} {v : String} :
    nonBlank value = some v ↔ value = some v ∧ Text.trimBlanks v ≠ "" := by
  simp [nonBlank, Option.filter_eq_some_iff, Text.trimBlanks_eq_empty_iff]

theorem nonBlank_eq_none_iff {value : Option String} :
    nonBlank value = none ↔ ∀ v, value = some v → Text.trimBlanks v = "" := by
  cases value <;> simp [nonBlank, Option.filter, Text.trimBlanks_eq_empty_iff]

/-! ## The settings asked for -/

/-- The configuration a lookup asks for before its URL is read. -/
def requested (lookup : String → Option String) : Config where
  bypass := (lookup bypassVariable).any (fun v => Text.trimBlanks v = "true")
  trustedKeys := ((lookup keysVariable).map TrustedKeys.ofCsv).getD TrustedKeys.empty
  rbacUrl := none
  rbacApplication :=
    ((nonBlank (lookup applicationVariable)).map Text.trimBlanks).getD defaultApplication

@[simp] theorem requested_rbacUrl (lookup : String → Option String) :
    (requested lookup).rbacUrl = none := rfl

theorem requested_bypass_iff (lookup : String → Option String) :
    (requested lookup).bypass = true ↔
      ∃ v, lookup bypassVariable = some v ∧ Text.trimBlanks v = "true" := by
  simp [requested, Option.any_eq_true]

theorem requested_trustedKeys (lookup : String → Option String) :
    (requested lookup).trustedKeys =
      match lookup keysVariable with
      | some raw => TrustedKeys.ofCsv raw
      | none => TrustedKeys.empty := by
  simp only [requested]
  cases lookup keysVariable <;> rfl

theorem requested_rbacApplication (lookup : String → Option String) :
    (requested lookup).rbacApplication =
      match lookup applicationVariable with
      | some app => if Text.trimBlanks app = "" then defaultApplication else Text.trimBlanks app
      | none => defaultApplication := by
  simp only [requested]
  cases happ : lookup applicationVariable with
  | none => rfl
  | some app =>
    by_cases hblank : Text.trimBlanks app = ""
    · simp [hblank, nonBlank_eq_none_iff.2 (fun v hv => Option.some.inj hv ▸ hblank)]
    · simp [hblank, nonBlank_eq_some_iff.2 ⟨rfl, hblank⟩]

/-! ## The outcome of a load -/

/-- Loading with a URL that is not blank parses it trimmed, over the settings asked for. -/
theorem ofLookup_of_url {lookup : String → Option String} {raw : String}
    (h : nonBlank (lookup urlVariable) = some raw) :
    ofLookup lookup =
      match Url.parse (Text.trimBlanks raw) with
      | .ok u =>
        ([loadedEvent { requested lookup with rbacUrl := some u }],
          .ok { requested lookup with rbacUrl := some u })
      | .error e => ([], .error (.invalidRbacUrl (Text.trimBlanks raw) e)) := by
  simp only [ofLookup, h, withRbacUrl, requested]
  cases nonBlank (lookup applicationVariable) <;> cases Url.parse (Text.trimBlanks raw) <;> rfl

/-- Loading without a URL keeps the settings asked for, and warns unless checks are bypassed. -/
theorem ofLookup_of_no_url {lookup : String → Option String}
    (h : nonBlank (lookup urlVariable) = none) :
    ofLookup lookup =
      ((if (requested lookup).bypass then [] else [missingUrlEvent]) ++
          [loadedEvent (requested lookup)], .ok (requested lookup)) := by
  simp only [ofLookup, h, requested]
  by_cases hbypass : (lookup bypassVariable).any (fun v => Text.trimBlanks v = "true") = true
  · simp only [hbypass, if_true, List.nil_append]
    cases nonBlank (lookup applicationVariable) <;> rfl
  · simp only [hbypass, Bool.false_eq_true, if_false, List.singleton_append]
    cases nonBlank (lookup applicationVariable) <;> rfl

/-- Loading reads the lookup at the four variables and nowhere else. -/
theorem ofLookup_congr {lookup other : String → Option String}
    (h : ∀ name ∈ [bypassVariable, keysVariable, applicationVariable, urlVariable],
      other name = lookup name) :
    ofLookup other = ofLookup lookup := by
  simp only [List.mem_cons, List.not_mem_nil, or_false, forall_eq_or_imp, forall_eq] at h
  obtain ⟨hbypass, hkeys, happ, hurl⟩ := h
  simp only [ofLookup, hbypass, hkeys, happ, hurl]

/-- A configuration is known by its four settings. -/
theorem mk_eq_iff {bypass : Bool} {keys : TrustedKeys} {url : Option Url} {app : String}
    {c : Config} :
    (⟨bypass, keys, url, app⟩ : Config) = c ↔
      c.bypass = bypass ∧ c.trustedKeys = keys ∧ c.rbacApplication = app ∧ c.rbacUrl = url := by
  cases c
  simp only [Config.mk.injEq]
  constructor
  · rintro ⟨rfl, rfl, rfl, rfl⟩
    exact ⟨rfl, rfl, rfl, rfl⟩
  · rintro ⟨rfl, rfl, rfl, rfl⟩
    exact ⟨rfl, rfl, rfl, rfl⟩

theorem ofLookup_eq_ok_iff {lookup : String → Option String} {c : Config} :
    (ofLookup lookup).2 = .ok c ↔
      c.bypass = (requested lookup).bypass ∧ c.trustedKeys = (requested lookup).trustedKeys ∧
        c.rbacApplication = (requested lookup).rbacApplication ∧
        ((c.rbacUrl = none ∧ nonBlank (lookup urlVariable) = none) ∨
          ∃ raw u, nonBlank (lookup urlVariable) = some raw ∧
            Url.parse (Text.trimBlanks raw) = .ok u ∧ c.rbacUrl = some u) := by
  cases hurl : nonBlank (lookup urlVariable) with
  | none => simp [ofLookup_of_no_url hurl, requested, mk_eq_iff]
  | some raw =>
    rw [ofLookup_of_url hurl]
    cases hparse : Url.parse (Text.trimBlanks raw) <;> simp [hparse, mk_eq_iff]

theorem ofLookup_eq_error_iff {lookup : String → Option String} {e : ConfigError} :
    (ofLookup lookup).2 = .error e ↔
      ∃ raw cause, nonBlank (lookup urlVariable) = some raw ∧
        Url.parse (Text.trimBlanks raw) = .error cause ∧
        e = .invalidRbacUrl (Text.trimBlanks raw) cause := by
  cases hurl : nonBlank (lookup urlVariable) with
  | none => simp [ofLookup_of_no_url hurl]
  | some raw =>
    rw [ofLookup_of_url hurl]
    cases hparse : Url.parse (Text.trimBlanks raw) with
    | error cause =>
      simp only [Except.error.injEq, Option.some.injEq, exists_and_left, exists_eq_left', hparse]
      exact eq_comm
    | ok u => simp [hparse]

/-- What loading logs follows from its outcome: nothing on failure; on success a warning when the
configuration has neither a service nor bypass, then the summary of what was loaded. -/
theorem ofLookup_events (lookup : String → Option String) :
    (ofLookup lookup).1 =
      match (ofLookup lookup).2 with
      | .error _ => []
      | .ok c =>
        (if c.rbacUrl = none ∧ c.bypass = false then [missingUrlEvent] else []) ++
          [loadedEvent c] := by
  cases hurl : nonBlank (lookup urlVariable) with
  | none =>
    rw [ofLookup_of_no_url hurl]
    cases hbypass : (requested lookup).bypass <;> simp [hbypass]
  | some raw =>
    rw [ofLookup_of_url hurl]
    cases Url.parse (Text.trimBlanks raw) <;> simp

/-- Loading reads `BYPASS_RBAC`, `SOURCES_PSKS`, `RBAC_APPLICATION` and `RBAC_URL` and nothing
else. It succeeds exactly when the URL is unset, blank, or parses once trimmed; the configuration
then has bypass exactly when `BYPASS_RBAC` trims to `true`, the keys listed in `SOURCES_PSKS` (none
when unset), the trimmed application unless it is blank (else `sources`), and the parsed URL or
none. It fails exactly when the trimmed URL does not parse, with an error carrying that text, and
then logs nothing; on success it logs the missing-URL warning exactly when there is neither a URL
nor bypass, then the summary of bypass, key count and application. -/
theorem ofLookup_reads_environment (lookup : String → Option String) :
    (∀ other : String → Option String,
      (∀ name ∈ ["BYPASS_RBAC", "SOURCES_PSKS", "RBAC_APPLICATION", "RBAC_URL"],
        other name = lookup name) → ofLookup other = ofLookup lookup) ∧
    (∀ c : Config, (ofLookup lookup).2 = .ok c ↔
      (c.bypass = true ↔ ∃ v, lookup "BYPASS_RBAC" = some v ∧ Text.trimBlanks v = "true") ∧
      c.trustedKeys =
        (match lookup "SOURCES_PSKS" with
          | some raw => TrustedKeys.ofCsv raw
          | none => TrustedKeys.empty) ∧
      c.rbacApplication =
        (match lookup "RBAC_APPLICATION" with
          | some app => if Text.trimBlanks app = "" then "sources" else Text.trimBlanks app
          | none => "sources") ∧
      ((c.rbacUrl = none ∧ ∀ u, lookup "RBAC_URL" = some u → Text.trimBlanks u = "") ∨
        ∃ u url, lookup "RBAC_URL" = some u ∧ Text.trimBlanks u ≠ "" ∧
          Url.parse (Text.trimBlanks u) = .ok url ∧ c.rbacUrl = some url)) ∧
    (∀ e : ConfigError, (ofLookup lookup).2 = .error e ↔
      ∃ u cause, lookup "RBAC_URL" = some u ∧ Text.trimBlanks u ≠ "" ∧
        Url.parse (Text.trimBlanks u) = .error cause ∧
        e = .invalidRbacUrl (Text.trimBlanks u) cause) ∧
    (ofLookup lookup).1 =
      match (ofLookup lookup).2 with
      | .error _ => []
      | .ok c =>
        (if c.rbacUrl = none ∧ c.bypass = false then
          [⟨.warn, "sources_authz::config",
            "RBAC_URL not set, user principals cannot be authorized", []⟩]
        else []) ++
        [⟨.debug, "sources_authz::config", "authorization config loaded",
          [("bypass", .flag c.bypass), ("trusted_keys", .count c.trustedKeys.size),
            ("rbac_application", .text c.rbacApplication)]⟩] := by
  -- the statement names the variables and the default application by their texts
  obtain ⟨hbypass, hkeys, happ, hurl, hdefault⟩ : bypassVariable = "BYPASS_RBAC" ∧
      keysVariable = "SOURCES_PSKS" ∧ applicationVariable = "RBAC_APPLICATION" ∧
      urlVariable = "RBAC_URL" ∧ defaultApplication = "sources" := ⟨rfl, rfl, rfl, rfl, rfl⟩
  rw [← hbypass, ← hkeys, ← happ, ← hurl, ← hdefault]
  refine ⟨fun other h => ofLookup_congr h, fun c => ?loaded, fun e => ?failed,
    ofLookup_events lookup⟩
  case loaded =>
    rw [ofLookup_eq_ok_iff, ← requested_bypass_iff, ← requested_trustedKeys,
      ← requested_rbacApplication, ← Bool.eq_iff_iff]
    -- the URL clause: a value that is not blank is one that is present and trims to something
    simp only [nonBlank_eq_none_iff, nonBlank_eq_some_iff, and_assoc]
  case failed =>
    rw [ofLookup_eq_error_iff]
    simp only [nonBlank_eq_some_iff, and_assoc]

/-- Bypass read through blanks, and a blank URL taken as none: no warning, only the summary. -/
example : (ofLookup fun name =>
      if name = "BYPASS_RBAC" then some " true\t"
      else if name = "RBAC_URL" then some "  " else none).1 =
    [loadedEvent ⟨true, TrustedKeys.empty, none, "sources"⟩] := by decide

end Config

end WriteAccess
