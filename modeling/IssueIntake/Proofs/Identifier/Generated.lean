import IssueIntake.Ingest.Generate
import IssueIntake.Proofs.Identifier.Base36
import IssueIntake.Proofs.Identifier.Split
/-!
# Generated identifiers are well-formed

Every candidate for an identifier is its namespace, a dash and a word (`candidate_eq`), so it splits
like an identifier that is accepted there, and lies at the top of the namespace
(`depth_candidate`).
-/

namespace IssueIntake

/-! ## Keys in base 36 -/

namespace Base36

theorem isAlphanum_of_mem_digits {len n : Nat} {c : Char} (h : c ∈ digits len n) :
    c.isAlphanum = true := by
  rcases isLowerAlphanum_of_mem_digits h with isDigit | isLower
  · simp [Char.isAlphanum, isDigit]
  · change (c.isUpper || c.isLower || c.isDigit) = true
    rw [isLower, Bool.or_true, Bool.true_or]

theorem isWord_digits {len : Nat} (some : 0 < len) (n : Nat) :
    Identifier.isWord (digits len n) = true := by
  obtain ⟨rest, rfl⟩ := Nat.exists_eq_add_one.2 some
  have nonempty : (digits (rest + 1) n).isEmpty = false := by simp [digits]
  rw [Identifier.isWord, nonempty, Bool.not_false, Bool.true_and, List.all_eq_true]
  exact fun c hc => isAlphanum_of_mem_digits hc

end Base36

/-! ## Words as keys -/

namespace Identifier

theorem not_mem_of_isWord {cs : List Char} {c : Char} (h : isWord cs = true)
    (other : c.isAlphanum = false) : c ∉ cs := by
  intro there
  rw [List.all_eq_true.1 (Bool.and_eq_true_iff.1 h).2 c there] at other
  cases other

/-- A word is a key without ordinals. -/
theorem isKey_of_isWord {cs : List Char} (h : isWord cs = true) : isKey cs = true := by
  have one : Text.pieces '.' cs = [cs] := Text.pieces_of_not_mem (not_mem_of_isWord h (by decide))
  simp [isKey, one, h]

/-- A namespace and a key make an identifier that is as deep as the key has ordinals. -/
theorem depth_eq {space key : String} (some : space ≠ "") (isKey : isKey key.toList = true) :
    depth (space ++ "-" ++ key) = key.toList.count '.' := by
  rw [depth, split_eq_some_iff.2 ⟨rfl, some, isKey⟩]

end Identifier

/-! ## Candidates -/

namespace Generate

/-- Keys are never shorter than the shortest. -/
theorem minLength_le_keyLength (existing : Nat) : minLength ≤ keyLength existing := by
  unfold keyLength
  cases h : (List.range' minLength (maxLength + 1 - minLength)).find? (isRoomy existing) with
  | none => decide
  | some len => exact (List.mem_range'_1.1 (List.mem_of_find?_eq_some h)).1

/-- Keys are never longer than the longest. -/
theorem keyLength_le_maxLength (existing : Nat) : keyLength existing ≤ maxLength := by
  unfold keyLength
  cases h : (List.range' minLength (maxLength + 1 - minLength)).find? (isRoomy existing) with
  | none => exact Nat.le_refl _
  | some len =>
    have short := (List.mem_range'_1.1 (List.mem_of_find?_eq_some h)).2
    exact Nat.le_of_lt_succ short

theorem mem_attempts_iff {base : Nat} {attempt : Nat × Nat} : attempt ∈ attempts base ↔
    base ≤ attempt.1 ∧ attempt.1 ≤ maxLength ∧ attempt.2 < candidatesPerLength := by
  obtain ⟨len, counter⟩ := attempt
  simp only [attempts, List.mem_flatMap, List.mem_map, List.mem_range'_1, List.mem_range,
    Prod.mk.injEq]
  constructor
  · rintro ⟨_, lengths, _, counted, rfl, rfl⟩
    exact ⟨lengths.1, by omega, counted⟩
  · rintro ⟨long, short, counted⟩
    exact ⟨len, ⟨long, by omega⟩, counter, counted, rfl, rfl⟩

/-- Attempts are made by length, and those of one length by counter. -/
theorem attempts_pairwise (base : Nat) :
    (attempts base).Pairwise (Prod.Lex (· < ·) (· < ·)) := by
  rw [attempts, List.pairwise_flatMap]
  constructor
  · intro len _
    rw [List.pairwise_map]
    exact List.pairwise_lt_range.imp fun less => .right _ less
  · refine (List.pairwise_lt_range' 1).imp fun less shorter hs longer hl => ?_
    obtain ⟨_, _, rfl⟩ := List.mem_map.1 hs
    obtain ⟨_, _, rfl⟩ := List.mem_map.1 hl
    exact .left _ _ less

/-- Whatever a namespace holds, its candidates are among those of an empty one. -/
theorem mem_attempts_minLength {existing : Nat} {attempt : Nat × Nat}
    (h : attempt ∈ attempts (keyLength existing)) : attempt ∈ attempts minLength := by
  rw [mem_attempts_iff] at h ⊢
  exact h.imp_left (Nat.le_trans (minLength_le_keyLength existing))

section Candidate

variable {attempt : Nat × Nat} (h : attempt ∈ attempts minLength) (space : String) (i : Issue)
  (actor : String) (now : Instant)

include h

/-- A candidate is its namespace, a dash and a word. -/
theorem candidate_eq : ∃ key : String, Identifier.isWord key.toList = true ∧
    candidate space i actor now attempt = space ++ "-" ++ key := by
  refine ⟨_, ?_, rfl⟩
  rw [Base36.hashKey, Base36.encode_eq, String.toList_ofList]
  exact Base36.isWord_digits (Nat.lt_of_lt_of_le (by decide) (mem_attempts_iff.1 h).1) _

/-- A candidate is accepted in its namespace. -/
theorem checkSpace_candidate (some : space ≠ "") :
    Identifier.checkSpace (candidate space i actor now attempt) space = .ok () := by
  obtain ⟨key, isWord, whole⟩ := candidate_eq h space i actor now
  exact Identifier.checkSpace_eq_ok_iff.2 ⟨some, key, Identifier.isKey_of_isWord isWord, whole⟩

/-- A candidate lies at the top of its namespace. -/
theorem depth_candidate (some : space ≠ "") :
    Identifier.depth (candidate space i actor now attempt) = 0 := by
  obtain ⟨key, isWord, whole⟩ := candidate_eq h space i actor now
  rw [whole, Identifier.depth_eq some (Identifier.isKey_of_isWord isWord), List.count_eq_zero]
  exact Identifier.not_mem_of_isWord isWord (by decide)

end Candidate

end Generate

end IssueIntake
