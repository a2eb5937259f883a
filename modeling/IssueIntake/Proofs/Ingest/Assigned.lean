import IssueIntake.Proofs.Identifier.Generated
import IssueIntake.Proofs.Ingest.Booking
/-!
# The identifiers that issues are given

A draft gets one of its candidates, and any other issue keeps its identifier
(`candidate_of_decision`, `id_of_decision`). In strict mode both ways lead to the same form: what
is stored splits into the issue's namespace and a key (`split_of_decision`).
-/

namespace IssueIntake.View

variable {ε : Type} {v : View} {terms : Terms} {i j : Issue}

/-- An identifier that comes with an issue is kept. -/
theorem id_of_decision (decided : v.decision terms i = ((.ok (), j) : Decision ε))
    (explicit : i.id ≠ "") : j.id = i.id := by
  obtain ⟨space, -, own⟩ := assign_eq_ok (assign_of_decision decided)
  rw [if_neg explicit] at own
  exact own.1

/-- Stores with the same settings admit the same issues with identifiers, whatever else is in
them: no identifier is searched. -/
theorem decision_congr_of_named {w : View} (config : v.config = w.config) (explicit : i.id ≠ "") :
    (v.decision terms i : Decision ε) = w.decision terms i := by
  have vocabulary : v.vocabulary = w.vocabulary := by simp only [View.vocabulary, names, config]
  obtain ⟨_, _, _, _, _, frame⟩ := i.prepare_frame v.vocabulary terms.now
  unfold decision
  rw [← vocabulary]
  rcases prepared : i.prepare v.vocabulary terms.now with ⟨e | ok, k⟩
  · rfl
  · have named : k.id = i.id := by
      rw [prepared] at frame
      rw [show k = _ from frame]
    have given : ¬ k.id.isEmpty = true := by simpa [named] using explicit
    simp only [assign, space?, identify, config, if_neg given]

/-- A draft gets one of its candidates in its namespace, which is free. -/
theorem candidate_of_decision (decided : v.decision terms i = ((.ok (), j) : Decision ε))
    (draft : i.id = "") : v.holds j.id = false ∧ ∃ space, v.space? i.spaceToken = some space ∧
      ∃ attempt ∈ Generate.attempts Generate.minLength,
        Generate.candidate space i terms.actor terms.now attempt = j.id := by
  obtain ⟨space, spaced, own⟩ := assign_eq_ok (assign_of_decision decided)
  rw [if_pos draft] at own
  obtain ⟨attempt, there, same⟩ := List.mem_map.1 own.1
  exact ⟨own.2, space, spaced, attempt, Generate.mem_attempts_minLength there, same⟩

/-- In strict mode an identifier splits into the issue's namespace and a key, whether it was
generated or checked. -/
theorem split_of_decision (strict : terms.mode = .strict)
    (decided : v.decision terms i = ((.ok (), j) : Decision ε)) :
    ∃ base key, v.config Setting.issueSpace = some base ∧
      Identifier.split j.id = some (Identifier.space base i.spaceToken, key) := by
  obtain ⟨space, spaced, own⟩ := assign_eq_ok (assign_of_decision decided)
  obtain ⟨base, configured, some, rfl⟩ := space?_eq_some_iff.1 spaced
  have split : ∃ key, Identifier.split j.id =
      .some (Identifier.space base i.spaceToken, key) := by
    by_cases draft : i.id = ""
    · rw [if_pos draft] at own
      obtain ⟨attempt, there, same⟩ := List.mem_map.1 own.1
      obtain ⟨key, isWord, whole⟩ := Generate.candidate_eq (Generate.mem_attempts_minLength there)
        (Identifier.space base i.spaceToken) i terms.actor terms.now
      exact ⟨key, Identifier.split_eq_some_iff.2 ⟨same.symm.trans whole,
        Identifier.space_ne_empty some _, Identifier.isKey_of_isWord isWord⟩⟩
    · rw [if_neg draft] at own
      obtain ⟨nonempty, key, isKey, whole⟩ := Identifier.checkSpace_eq_ok_iff.1 (own.2 strict)
      exact ⟨key, Identifier.split_eq_some_iff.2 ⟨whole, nonempty, isKey⟩⟩
  obtain ⟨key, split⟩ := split
  exact ⟨base, key, configured, split⟩

end IssueIntake.View
