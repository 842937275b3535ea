import Mathlib
import WriteAccess.Access.Permission

/-!
# Reading and writing permissions

A permission is written as its three parts joined by colons and read by splitting a text at every
colon. Reading accepts exactly the texts with two colons and something before the first; what it
reads is written back as the very text it read; and a triple is read back from its own text
exactly when its service is not empty and no part holds a colon, and otherwise refused, never read
as another triple. A refusal names the whole text.

The splitting is `List.splitOn`; the facts about it used here are that its pieces hold no
separator, that there is one more piece than separators, and that joining the pieces with the
separator gives the text back (`List.intercalate_splitOn`).
-/

namespace WriteAccess

/-! ## Splitting at a separator -/

/-- No piece of a split holds the separator. -/
theorem not_mem_of_mem_splitOn {c : Char} : ∀ {xs w : List Char}, w ∈ xs.splitOn c → c ∉ w
  | [], w, h => by
    simp only [List.splitOn_nil, List.mem_singleton] at h
    simp [h]
  | x :: xs, w, h => by
    rw [List.splitOn_cons_eq_if_modifyHead] at h
    split at h
    · rcases List.mem_cons.1 h with rfl | h
      · simp
      · exact not_mem_of_mem_splitOn h
    · next hx =>
      -- `x` is not the separator and joins the first piece of the rest
      obtain ⟨r, rs, hr⟩ := List.exists_cons_of_ne_nil (List.splitOn_ne_nil c xs)
      rw [hr, List.modifyHead_cons] at h
      rcases List.mem_cons.1 h with rfl | h
      · have hcr : c ∉ r := not_mem_of_mem_splitOn (hr ▸ List.mem_cons_self ..)
        have hxc : x ≠ c := by simpa using hx
        simp [hcr, Ne.symm hxc]
      · exact not_mem_of_mem_splitOn (hr ▸ List.mem_cons_of_mem _ h)

/-- A split has one more piece than the text has separators. -/
theorem length_splitOn (c : Char) (xs : List Char) : (xs.splitOn c).length = xs.count c + 1 := by
  induction xs with
  | nil => simp
  | cons x xs ih =>
    rw [List.splitOn_cons_eq_if_modifyHead, List.count_cons]
    split <;> simp [ih]

/-- A text splits into three given pieces exactly when it is them joined by two separators and
no piece holds a separator. -/
theorem splitOn_eq_triple_iff {c : Char} {xs a b d : List Char} :
    xs.splitOn c = [a, b, d] ↔ xs = a ++ c :: (b ++ c :: d) ∧ c ∉ a ∧ c ∉ b ∧ c ∉ d := by
  constructor
  · intro h
    have hjoin : [c].intercalate (xs.splitOn c) = xs := List.intercalate_splitOn c
    rw [h] at hjoin
    have hpieces : ∀ w ∈ [a, b, d], c ∉ w := fun w hw => not_mem_of_mem_splitOn (h ▸ hw)
    refine ⟨?_, hpieces a (by simp), hpieces b (by simp), hpieces d (by simp)⟩
    rw [← hjoin]
    simp [List.intercalate]
  · rintro ⟨rfl, ha, hb, hd⟩
    have hpieces : ∀ w ∈ [a, b, d], c ∉ w := by simp [ha, hb, hd]
    have hsplit := List.splitOn_intercalate c hpieces (by simp)
    simpa [List.intercalate] using hsplit

namespace Permission

/-! ## The written form -/

/-- A permission that reads back from its own text: a service that is not empty, and no colon in
any part. -/
def Readable (p : Permission) : Prop :=
  p.service ≠ "" ∧ ':' ∉ p.service.toList ∧ ':' ∉ p.resourceType.toList ∧ ':' ∉ p.verb.toList

instance : DecidablePred Readable := fun _ => inferInstanceAs (Decidable (_ ∧ _))

theorem text_toList (p : Permission) :
    p.text.toList = p.service.toList ++ ':' :: (p.resourceType.toList ++ ':' :: p.verb.toList) := by
  simp [text]

/-- The text of a permission holds the colons of its parts and the two that join them. -/
theorem count_text (p : Permission) :
    p.text.toList.count ':' =
      p.service.toList.count ':' + p.resourceType.toList.count ':' + p.verb.toList.count ':' + 2 := by
  simp only [text_toList, List.count_append, List.count_cons_self]
  omega

/-- A permission whose parts hold no colon splits back into its parts. -/
theorem splitOn_text {p : Permission} (hs : ':' ∉ p.service.toList)
    (hr : ':' ∉ p.resourceType.toList) (hv : ':' ∉ p.verb.toList) :
    p.text.toList.splitOn ':' = [p.service.toList, p.resourceType.toList, p.verb.toList] :=
  splitOn_eq_triple_iff.2 ⟨text_toList p, hs, hr, hv⟩

/-! ## Reading -/

/-- Reading succeeds exactly on a split into three pieces with a first piece that is not empty,
and reads the pieces. -/
theorem parse?_eq_some_iff_splitOn {s : String} {p : Permission} :
    parse? s = some p ↔
      s.toList.splitOn ':' = [p.service.toList, p.resourceType.toList, p.verb.toList] ∧
        p.service ≠ "" := by
  rcases p with ⟨service, resourceType, verb⟩
  unfold parse?
  split
  · next a b d hsplit =>
    rw [hsplit]
    by_cases ha : a = []
    · subst ha
      -- an empty first piece is refused, and an empty service is no first piece of a reading
      simp only [if_pos, reduceCtorEq, false_iff, not_and, List.cons.injEq]
      intro h hne
      apply hne
      rw [← String.toList_inj, ← h.1]
      simp
    · simp only [ha, if_false, Option.some.injEq, mk.injEq, List.cons.injEq, and_true]
      constructor
      · rintro ⟨rfl, rfl, rfl⟩
        simpa [String.toList_ofList] using ha
      · rintro ⟨⟨rfl, rfl, rfl⟩, -⟩
        simp [String.ofList_toList]
  · next hshape =>
    simp only [reduceCtorEq, false_iff, not_and]
    intro h
    exact absurd h (hshape _ _ _)

/-- What reading gives is a readable permission whose text is the text read, and nothing else is
read. -/
theorem parse?_eq_some_iff {s : String} {p : Permission} :
    parse? s = some p ↔ p.Readable ∧ p.text = s := by
  rw [parse?_eq_some_iff_splitOn, splitOn_eq_triple_iff, ← text_toList, String.toList_inj]
  unfold Readable
  constructor
  · rintro ⟨⟨hs, ha, hb, hd⟩, hne⟩
    exact ⟨⟨hne, ha, hb, hd⟩, hs.symm⟩
  · rintro ⟨⟨hne, ha, hb, hd⟩, hs⟩
    exact ⟨⟨hs.symm, ha, hb, hd⟩, hne⟩

/-- A triple reads back from its own text exactly when it is readable, and as nothing else. -/
theorem parse?_text_eq_some_iff {q p : Permission} : parse? q.text = some p ↔ q.Readable ∧ p = q := by
  rw [parse?_eq_some_iff]
  constructor
  · rintro ⟨hp, htext⟩
    -- the text has only the two joining colons, so no part of `q` holds one
    have hcount := congrArg (fun t : String => t.toList.count ':') htext
    simp only [count_text] at hcount
    obtain ⟨hpne, hps, hpr, hpv⟩ := hp
    simp only [List.count_eq_zero_of_not_mem hps, List.count_eq_zero_of_not_mem hpr,
      List.count_eq_zero_of_not_mem hpv] at hcount
    have hqs : ':' ∉ q.service.toList := List.count_eq_zero.1 (by omega)
    have hqr : ':' ∉ q.resourceType.toList := List.count_eq_zero.1 (by omega)
    have hqv : ':' ∉ q.verb.toList := List.count_eq_zero.1 (by omega)
    -- both texts then split into the parts of their own triple
    have hsplit := congrArg (fun t : String => t.toList.splitOn ':') htext
    simp only [splitOn_text hps hpr hpv, splitOn_text hqs hqr hqv, List.cons.injEq,
      String.toList_inj, and_true] at hsplit
    obtain ⟨hs, hr, hv⟩ := hsplit
    have hpq : p = q := by
      rcases p with ⟨_, _, _⟩
      rcases q with ⟨_, _, _⟩
      simp_all
    subst hpq
    exact ⟨⟨hpne, hqs, hqr, hqv⟩, rfl⟩
  · rintro ⟨hq, rfl⟩
    exact ⟨hq, rfl⟩

/-- The text of a permission that does not read back is refused. -/
theorem parse?_text_of_not_readable {q : Permission} (hq : ¬ q.Readable) : parse? q.text = none := by
  cases h : parse? q.text with
  | none => rfl
  | some p => exact absurd (parse?_text_eq_some_iff.1 h).1 hq

/-- A text is read exactly when it has two colons and something before the first. -/
theorem parse?_isSome_iff (s : String) :
    (parse? s).isSome ↔ s.toList.count ':' = 2 ∧ s.toList.takeWhile (· ≠ ':') ≠ [] := by
  -- before the first colon of `a ++ ':' :: rest` stands `a`, when `a` holds no colon
  have hbefore : ∀ a rest : List Char, ':' ∉ a → (a ++ ':' :: rest).takeWhile (· ≠ ':') = a := by
    intro a rest ha
    have hall : ∀ x ∈ a, decide (x ≠ ':') = true := by
      intro x hx
      simp only [decide_eq_true_eq]
      rintro rfl
      exact ha hx
    rw [List.takeWhile_append_of_pos hall, List.takeWhile_cons_of_neg (by simp)]
    simp
  constructor
  · intro h
    obtain ⟨p, hp⟩ := Option.isSome_iff_exists.1 h
    obtain ⟨hsplit, hne⟩ := parse?_eq_some_iff_splitOn.1 hp
    have hlen := length_splitOn ':' s.toList
    obtain ⟨hs, ha, -, -⟩ := splitOn_eq_triple_iff.1 hsplit
    rw [hsplit] at hlen
    refine ⟨by simpa using hlen.symm, ?_⟩
    rw [hs, hbefore _ _ ha]
    simpa using hne
  · rintro ⟨hcount, hfirst⟩
    have hlen := length_splitOn ':' s.toList
    rw [hcount] at hlen
    -- three pieces, of which the first is what stands before the first colon
    obtain ⟨a, b, d, hsplit⟩ : ∃ a b d, s.toList.splitOn ':' = [a, b, d] := by
      match hparts : s.toList.splitOn ':', hlen with
      | [a, b, d], _ => exact ⟨a, b, d, rfl⟩
    obtain ⟨hs, ha, -, -⟩ := splitOn_eq_triple_iff.1 hsplit
    have hne : String.ofList a ≠ "" := by
      rw [hs, hbefore _ _ ha] at hfirst
      simpa [← String.toList_inj] using hfirst
    refine Option.isSome_iff_exists.2 ⟨⟨String.ofList a, String.ofList b, String.ofList d⟩, ?_⟩
    exact parse?_eq_some_iff_splitOn.2 ⟨by simpa using hsplit, hne⟩

theorem read_eq_ok_iff {s : String} {p : Permission} : read s = .ok p ↔ parse? s = some p := by
  unfold read
  cases parse? s <;> simp

/-- A refusal names the whole text. -/
theorem read_eq_error_iff {s : String} {e : RbacError} :
    read s = .error e ↔ parse? s = none ∧ e = .invalidPermission s := by
  unfold read
  cases parse? s <;> simp [eq_comm]

/-- Reading against writing: a text is read exactly when it has two colons and something before
the first, and a refusal names the whole text; what is read is written back as the text read; and
a triple is read back from its own text exactly when its service is not empty and no part holds a
colon, its text being refused otherwise, and never read as another triple. -/
theorem read_text_laws :
    (∀ s : String, (∃ p, read s = .ok p) ↔
      s.toList.count ':' = 2 ∧ s.toList.takeWhile (· ≠ ':') ≠ []) ∧
    (∀ (s : String) (e : RbacError), read s = .error e → e = .invalidPermission s) ∧
    (∀ (s : String) (p : Permission), read s = .ok p → p.text = s) ∧
    (∀ a b c : String,
      (read (Permission.text ⟨a, b, c⟩) = .ok ⟨a, b, c⟩ ↔
        a ≠ "" ∧ ':' ∉ a.toList ∧ ':' ∉ b.toList ∧ ':' ∉ c.toList) ∧
      (¬ (a ≠ "" ∧ ':' ∉ a.toList ∧ ':' ∉ b.toList ∧ ':' ∉ c.toList) →
        read (Permission.text ⟨a, b, c⟩) =
          .error (.invalidPermission (Permission.text ⟨a, b, c⟩))) ∧
      ∀ p, read (Permission.text ⟨a, b, c⟩) = .ok p → p = ⟨a, b, c⟩) := by
  refine ⟨fun s => ?accepted, fun s e h => (read_eq_error_iff.1 h).2,
    fun s p h => (parse?_eq_some_iff.1 (read_eq_ok_iff.1 h)).2,
    fun a b c => ⟨?readBack, fun hq => ?refused, fun p h => ?same⟩⟩
  case accepted =>
    rw [← parse?_isSome_iff, Option.isSome_iff_exists]
    simp only [read_eq_ok_iff]
  case readBack =>
    rw [read_eq_ok_iff, parse?_text_eq_some_iff]
    simp [Readable]
  case refused => exact read_eq_error_iff.2 ⟨parse?_text_of_not_readable hq, rfl⟩
  case same => exact (parse?_text_eq_some_iff.1 (read_eq_ok_iff.1 h)).2

/-- Empty resource types and verbs are kept as literal values; an empty service is refused. -/
example : read "sources::*" = .ok ⟨"sources", "", "*"⟩ ∧
    read ":*:*" = .error (.invalidPermission ":*:*") := ⟨rfl, rfl⟩

end Permission

end WriteAccess
