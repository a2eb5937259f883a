import IssueIntake.Proofs.Ingest.Booking
import IssueIntake.Proofs.Issue.Repair
/-!
# Issues that are settled

An issue that is ready to be stored is prepared to itself at any time (`Sound.prepare`): there is
nothing to repair, and it keeps its fingerprint. If it has an identifier and is trusted, ingestion
takes it in as it is (`View.decision_of_sound`).
-/

namespace IssueIntake

namespace Issue

variable {i : Issue}

namespace Sound

theorem complete (h : i.Sound) : i.Complete where
  created := h.created
  updated := h.updated
  closed := h.closed
  deleted := h.deleted.2

/-- Nothing is missing. -/
theorem repair (h : i.Sound) (now : Instant) : i.repair now = (.ok .nothing, i) :=
  h.complete.repair now

theorem validate (h : i.Sound) {v : Vocabulary} (status : v.allowsStatus i.status = true)
    (issueType : v.allowsType i.issueType = true) : i.validate v = .ok () := by
  refine validate_eq_ok_iff.2 ⟨h.title, h.priority, status, issueType, fun s t hs => ?_,
    checkClosing_eq_ok_iff.2 ⟨h.closed, h.notClosed⟩, checkDeletion_eq_ok_iff.2 h.deleted⟩
  exact isStorable_iff.2 (h.years s t hs)

theorem withFingerprint (h : i.Sound) : i.withFingerprint = i := by
  rw [Issue.withFingerprint, if_neg (by simpa using h.fingerprinted)]

/-- Preparation leaves the issue as it is. -/
theorem prepare (h : i.Sound) {v : Vocabulary} (status : v.allowsStatus i.status = true)
    (issueType : v.allowsType i.issueType = true) (now : Instant) :
    i.prepare v now = (.ok (), i) :=
  prepare_eq_ok_iff.2 ⟨_, i, h.repair now, h.validate status issueType, h.withFingerprint.symm⟩

end Sound

end Issue

namespace View

variable {ε : Type} {v : View} {terms : Terms} {i j : Issue}

/-- An admitted issue has an identifier, and there is a namespace. -/
theorem named_of_decision (decided : v.decision terms i = ((.ok (), j) : Decision ε)) :
    j.id ≠ "" ∧ (v.space? i.spaceToken).isSome = true := by
  obtain ⟨space, spaced, own⟩ := assign_eq_ok (assign_of_decision decided)
  refine ⟨?_, Option.isSome_iff_exists.2 ⟨space, spaced⟩⟩
  by_cases draft : i.id = ""
  · rw [if_pos draft] at own
    obtain ⟨attempt, -, same⟩ := List.mem_map.1 own.1
    rw [← same]
    simp [Generate.candidate]
  · rw [if_neg draft] at own
    rwa [own.1]

/-- A trusted issue that is ready to be stored and has its identifier is taken in as it is. -/
theorem decision_of_sound (sound : i.Sound) (named : i.id ≠ "") (trusted : terms.mode = .trusted)
    (spaced : (v.space? i.spaceToken).isSome = true)
    (status : v.vocabulary.allowsStatus i.status = true)
    (issueType : v.vocabulary.allowsType i.issueType = true) :
    v.decision terms i = ((.ok (), i) : Decision ε) := by
  obtain ⟨space, hs⟩ := Option.isSome_iff_exists.1 spaced
  have notStrict : ¬ terms.mode = .strict := by simp [trusted]
  exact decision_eq_ok_iff.2 ⟨i, i.id, sound.prepare status issueType terms.now,
    assign_named named hs (absurd · notStrict), rfl⟩

end View

end IssueIntake
