import IssueIntake.Identifier.Basic
import IssueIntake.Proofs.Text.Pieces
import IssueIntake.Text.Blank
/-!
# How identifiers split

An identifier splits into a namespace and a key in at most one way: a key holds no dash, so the
last dash of the identifier is the one before the key (`split_eq_some_iff`). An identifier is
accepted in a namespace if and only if it is the namespace, a dash and a key
(`checkSpace_eq_ok_iff`).
-/

namespace IssueIntake.Identifier

open Text

/-- A key holds no dash. -/
theorem dash_not_mem_of_isKey {key : List Char} (h : isKey key = true) : '-' ∉ key := by
  intro dash
  rw [← join_pieces '.' key] at dash
  unfold isKey at h
  cases hp : pieces '.' key with
  | nil => exact pieces_ne_nil '.' key hp
  | cons word ordinals =>
    simp only [hp, Bool.and_eq_true, List.all_eq_true] at h dash
    obtain ⟨isWord, areOrdinals⟩ := h
    obtain dot | ⟨p, hm, hd⟩ := mem_join dash
    · exact absurd dot (by decide)
    rcases List.mem_cons.1 hm with rfl | hm
    · have letter := List.all_eq_true.1 (Bool.and_eq_true_iff.1 isWord).2 '-' hd
      exact absurd letter (by decide)
    · have digit := List.all_eq_true.1 (Bool.and_eq_true_iff.1 (areOrdinals p hm)).2 '-' hd
      exact absurd digit (by decide)

/-- An identifier splits into a namespace and a key that it is made of, and into no others. -/
theorem split_eq_some_iff {id space key : String} : split id = some (space, key) ↔
    id = space ++ "-" ++ key ∧ space ≠ "" ∧ isKey key.toList = true := by
  constructor
  · intro h
    unfold split at h
    cases hs : splitLast '-' id.toList with
    | none => simp [hs] at h
    | some cut =>
      obtain ⟨before, after⟩ := cut
      simp only [hs] at h
      split at h
      · next whole =>
        cases h
        obtain ⟨some, isKey⟩ := Bool.and_eq_true_iff.1 whole
        refine ⟨?_, by simpa using some, by simpa using isKey⟩
        apply String.toList_injective
        simp [(splitLast_eq_some_iff.1 hs).1]
      · cases h
  · rintro ⟨rfl, some, isKey⟩
    have cut : splitLast '-' (space ++ "-" ++ key).toList = .some (space.toList, key.toList) := by
      refine splitLast_eq_some_iff.2 ⟨by simp, dash_not_mem_of_isKey isKey⟩
    have there : space.toList.isEmpty = false := by simpa using some
    simp only [split, cut, there, isKey, Bool.not_false, Bool.and_true, if_true,
      String.ofList_toList]

/-- An identifier splits into exactly a namespace and a key without ordinals. -/
def TopLevelIn (space id : String) : Prop :=
  ∃ key, split id = some (space, key) ∧ '.' ∉ key.toList

theorem isTopLevelIn_iff {space id : String} :
    isTopLevelIn space id = true ↔ TopLevelIn space id := by
  unfold isTopLevelIn TopLevelIn
  cases hs : split id with
  | none => simp
  | some parts =>
    obtain ⟨found, key⟩ := parts
    by_cases same : found = space <;> simp [same]

instance (space id : String) : Decidable (TopLevelIn space id) :=
  decidable_of_iff _ isTopLevelIn_iff

/-- The identifiers that are accepted in a namespace are those made of it and a key. -/
theorem checkSpace_eq_ok_iff {id expected : String} : checkSpace id expected = .ok () ↔
    expected ≠ "" ∧ ∃ key : String, isKey key.toList = true ∧ id = expected ++ "-" ++ key := by
  unfold checkSpace
  constructor
  · intro h
    cases hs : split id with
    | none => simp [hs] at h
    | some parts =>
      obtain ⟨found, key⟩ := parts
      simp only [hs] at h
      split at h
      · next same =>
        subst same
        obtain ⟨whole, some, isKey⟩ := split_eq_some_iff.1 hs
        exact ⟨some, key, isKey, whole⟩
      · cases h
  · rintro ⟨some, key, isKey, whole⟩
    simp only [split_eq_some_iff.2 ⟨whole, some, isKey⟩, if_true]

/-- An identifier that is not accepted is malformed, or it lies in another namespace. -/
theorem eq_of_checkSpace_eq_error {id expected : String} {e : SpaceError}
    (h : checkSpace id expected = .error e) :
    e = match split id with
      | none => .malformed id
      | some (found, _) => .mismatch id expected found := by
  unfold checkSpace at h
  cases hs : split id with
  | none =>
    rw [hs] at h
    cases h
    rfl
  | some parts =>
    simp only [hs] at h
    split at h <;> cases h
    rfl

/-- A namespace below one that is not blank is not empty. -/
theorem space_ne_empty {base : String} (h : Text.trim base ≠ "") (token : String) :
    space base token ≠ "" := by
  have some : base ≠ "" := by
    rintro rfl
    exact h rfl
  unfold space
  split
  · exact some
  · simp

/-- A token that is not empty leads below the base namespace. -/
theorem space_ne_base {token : String} (some : token ≠ "") (base : String) :
    space base token ≠ base := by
  intro same
  have longer : (space base token).length = base.length + 1 + token.length := by
    simp [space, some]
    rfl
  rw [same] at longer
  omega

/-- Different tokens have different namespaces, whatever they and the base are made of. -/
theorem space_injective (base : String) : Function.Injective (space base) := by
  intro token other same
  by_cases none : token = "" <;> by_cases none' : other = ""
  · rw [none, none']
  · subst none
    exact absurd same.symm (space_ne_base none' base)
  · subst none'
    exact absurd same (space_ne_base none base)
  · simpa [space, none, none'] using same

end IssueIntake.Identifier
