import Mathlib
import WriteAccess.Access.List

/-!
# How an access list decides

A grant covers a requested triple when the services are equal and each of the grant's resource
type and verb is `*` or equal to the requested one. A list allows what one of its grants covers,
so its verdict depends only on which grants it holds: not on their order, on repetitions or on the
pages they came in, and adding grants never takes an allowance away.

A `*` in a request is matched as text, not as a pattern, and yet it asks for exactly "every
value": a list allows `*` in a field if and only if it allows every other value there. One way
round a wildcard grant does it; the other way rests on there being more values than a list can
name, so a list of narrow grants always misses one. In particular only a grant of exactly
`sources:*:*` lets a caller write.
-/

namespace WriteAccess

namespace Permission

@[simp] theorem fieldCovers_iff (granted requested : String) :
    fieldCovers granted requested = true ↔ granted = wildcard ∨ granted = requested := by
  simp [fieldCovers]

theorem grants_iff (p : Permission) (service resourceType verb : String) :
    p.grants service resourceType verb = true ↔
      p.service = service ∧ (p.resourceType = wildcard ∨ p.resourceType = resourceType) ∧
        (p.verb = wildcard ∨ p.verb = verb) := by
  simp [grants, and_assoc]

/-- The grant test with the resource type's test first. -/
theorem grants_eq_resourceType_first (p : Permission) (service resourceType verb : String) :
    p.grants service resourceType verb =
      (fieldCovers p.resourceType resourceType && (p.service == service && fieldCovers p.verb verb)) := by
  rw [grants, Bool.and_assoc, Bool.and_left_comm]

/-- The grant test with the verb's test first. -/
theorem grants_eq_verb_first (p : Permission) (service resourceType verb : String) :
    p.grants service resourceType verb =
      (fieldCovers p.verb verb && (p.service == service && fieldCovers p.resourceType resourceType)) := by
  simp only [grants, Bool.and_comm]

end Permission

namespace AccessList

open Permission

theorem isAllowed_iff (l : AccessList) (service resourceType verb : String) :
    l.isAllowed service resourceType verb = true ↔
      ∃ g ∈ l.grants, g.permission.service = service ∧
        (g.permission.resourceType = wildcard ∨ g.permission.resourceType = resourceType) ∧
        (g.permission.verb = wildcard ∨ g.permission.verb = verb) := by
  simp only [isAllowed, List.any_eq_true, grants_iff]

/-- Extending a list allows what it allowed and what the added grants allow. -/
theorem isAllowed_append (l : AccessList) (more : List Grant) (service resourceType verb : String) :
    (l.append more).isAllowed service resourceType verb =
      (l.isAllowed service resourceType verb || (⟨more⟩ : AccessList).isAllowed service resourceType verb) := by
  simp only [append, isAllowed, List.any_append]

/-- A list whose grants are all among another's allows no more than it. -/
theorem isAllowed_of_subset {l₁ l₂ : AccessList} (h : ∀ g ∈ l₁.grants, g ∈ l₂.grants)
    {service resourceType verb : String} (hl : l₁.isAllowed service resourceType verb = true) :
    l₂.isAllowed service resourceType verb = true := by
  obtain ⟨g, hg, hcovers⟩ := (isAllowed_iff ..).1 hl
  exact (isAllowed_iff ..).2 ⟨g, h g hg, hcovers⟩

/-- Some value is neither `*` nor any of finitely many given values. -/
theorem exists_fresh_value (values : List String) : ∃ x, x ≠ wildcard ∧ x ∉ values := by
  obtain ⟨x, hx⟩ := Infinite.exists_notMem_finset (wildcard :: values).toFinset
  simp only [List.toFinset_cons, Finset.mem_insert, List.mem_toFinset, not_or] at hx
  exact ⟨x, hx⟩

/-- Among finitely many items, a `*` asked of a field is covered, together with the rest of the
test, exactly when every other value is. -/
theorem any_covers_wildcard_iff {ι : Type} (items : List ι) (field : ι → String)
    (rest : ι → Bool) :
    items.any (fun i => fieldCovers (field i) wildcard && rest i) = true ↔
      ∀ x ≠ wildcard, items.any (fun i => fieldCovers (field i) x && rest i) = true := by
  simp only [List.any_eq_true, Bool.and_eq_true, fieldCovers_iff, or_self]
  constructor
  · rintro ⟨i, hi, hwild, hrest⟩ x _
    exact ⟨i, hi, .inl hwild, hrest⟩
  · intro h
    -- a value no item's field holds: the item that covers it can only do so by a wildcard
    obtain ⟨x, hx, hfresh⟩ := exists_fresh_value (items.map field)
    obtain ⟨i, hi, hcovers, hrest⟩ := h x hx
    have hwild : field i = wildcard :=
      hcovers.resolve_right fun heq => hfresh (heq ▸ List.mem_map_of_mem hi)
    exact ⟨i, hi, hwild, hrest⟩

/-- A list allows `*` as the resource type exactly when it allows every other resource type. -/
theorem isAllowed_wildcard_resourceType_iff (l : AccessList) (service verb : String) :
    l.isAllowed service wildcard verb = true ↔
      ∀ resourceType ≠ wildcard, l.isAllowed service resourceType verb = true := by
  simp only [isAllowed, grants_eq_resourceType_first]
  exact any_covers_wildcard_iff l.grants (·.permission.resourceType) _

/-- A list allows `*` as the verb exactly when it allows every other verb. -/
theorem isAllowed_wildcard_verb_iff (l : AccessList) (service resourceType : String) :
    l.isAllowed service resourceType wildcard = true ↔
      ∀ verb ≠ wildcard, l.isAllowed service resourceType verb = true := by
  simp only [isAllowed, grants_eq_verb_first]
  exact any_covers_wildcard_iff l.grants (·.permission.verb) _

/-- A list allows `*` in both fields exactly when it allows every other pair of values. -/
theorem isAllowed_wildcards_iff (l : AccessList) (service : String) :
    l.isAllowed service wildcard wildcard = true ↔
      ∀ resourceType ≠ wildcard, ∀ verb ≠ wildcard,
        l.isAllowed service resourceType verb = true := by
  rw [isAllowed_wildcard_resourceType_iff]
  exact forall₂_congr fun resourceType _ => isAllowed_wildcard_verb_iff l service resourceType

/-- The write permission is granted only by a grant of exactly `sources:*:*`: a `*` service is
never a wildcard, and narrow grants never add up to it. -/
theorem isAllowed_required_iff (l : AccessList) :
    l.isAllowed "sources" "*" "*" = true ↔ ∃ g ∈ l.grants, g.permission = required := by
  have hperm : ∀ p : Permission, p = required ↔
      p.service = "sources" ∧ p.resourceType = wildcard ∧ p.verb = wildcard := by
    rintro ⟨service, resourceType, verb⟩
    simp [required]
  simp only [isAllowed_iff, hperm, or_self, wildcard]

/-- What a list allows, in full: a triple exactly when one of its grants covers it; `*` in a
field of the request exactly when every other value of that field (or of both fields) is allowed;
the write permission exactly when a grant is `sources:*:*`. And the verdict depends only on which
grants the list holds: an extended list allows what either part allows, and a list allows
whatever a list of some of its grants allows. -/
theorem isAllowed_laws :
    (∀ (l : AccessList) (service resourceType verb : String),
      l.isAllowed service resourceType verb = true ↔
        ∃ g ∈ l.grants, g.permission.service = service ∧
          (g.permission.resourceType = "*" ∨ g.permission.resourceType = resourceType) ∧
          (g.permission.verb = "*" ∨ g.permission.verb = verb)) ∧
    (∀ (l : AccessList) (service verb : String),
      l.isAllowed service "*" verb = true ↔
        ∀ resourceType ≠ "*", l.isAllowed service resourceType verb = true) ∧
    (∀ (l : AccessList) (service resourceType : String),
      l.isAllowed service resourceType "*" = true ↔
        ∀ verb ≠ "*", l.isAllowed service resourceType verb = true) ∧
    (∀ (l : AccessList) (service : String),
      l.isAllowed service "*" "*" = true ↔
        ∀ resourceType ≠ "*", ∀ verb ≠ "*", l.isAllowed service resourceType verb = true) ∧
    (∀ l : AccessList,
      l.isAllowed "sources" "*" "*" = true ↔ ∃ g ∈ l.grants, g.permission = ⟨"sources", "*", "*"⟩) ∧
    (∀ (l : AccessList) (more : List Grant) (service resourceType verb : String),
      (l.append more).isAllowed service resourceType verb =
        (l.isAllowed service resourceType verb ||
          (⟨more⟩ : AccessList).isAllowed service resourceType verb)) ∧
    (∀ l₁ l₂ : AccessList, (∀ g ∈ l₁.grants, g ∈ l₂.grants) →
      ∀ service resourceType verb, l₁.isAllowed service resourceType verb = true →
        l₂.isAllowed service resourceType verb = true) :=
  ⟨isAllowed_iff, isAllowed_wildcard_resourceType_iff, isAllowed_wildcard_verb_iff,
    isAllowed_wildcards_iff, isAllowed_required_iff, isAllowed_append,
    fun _ _ h _ _ _ hl => isAllowed_of_subset h hl⟩

/-- Narrow grants and a `*` service never add up to the write permission. -/
example : (⟨[⟨⟨"sources", "*", "read"⟩, []⟩, ⟨⟨"sources", "source", "*"⟩, []⟩,
    ⟨⟨"*", "*", "*"⟩, []⟩]⟩ : AccessList).allowsWrite = false := by decide +kernel

end AccessList

end WriteAccess
