import IssueIntake.Calendar.Epoch
import IssueIntake.Proofs.Identifier.Split
import IssueIntake.Proofs.Ingest.Requirement
/-!
# Which issues are taken in

The store in memory takes an issue in if and only if it meets all requirements, and gives the fault
of the first that it does not meet (`accepted_iff_requirements`). Each phase of ingestion is the
result of its own requirements: repair (`repair_judged`), validation (`validate_judged`), the choice
of an identifier (`assign_judged`) and the insertion. Repair changes what validation looks at, so
the requirements of validation are those of the issue as it was given.
-/

namespace IssueIntake

open Requirement

section Phases

variable {m : Memory} {terms : Terms} {i : Issue}

/-! ## Repair -/

theorem finalStamp_judged {stamp : Issue.Stamp} {due : Bool} {present : Option Instant}
    (lacks : i.Lacks stamp ↔ due = true ∧ present = none) :
    Judged (Holds m terms i) (fun q e => q.Fault m terms i (.violation e)) [finalTime stamp]
      (Issue.finalStamp stamp due present (i.latest terms.now)) := by
  unfold Issue.finalStamp
  by_cases needed : due = true ∧ present = none
  · obtain ⟨rfl, rfl⟩ := needed
    have there : i.Lacks stamp := lacks.2 ⟨rfl, rfl⟩
    cases hl : (i.latest terms.now).secondLater? with
    | some t => exact .met (by simp [Holds, hl]) ⟨some t, rfl⟩
    | none => exact .broken (by simp [Holds, there, hl]) ⟨_, rfl, rfl⟩
  · have notDue : (due && present.isNone) = false := by
      rw [Bool.eq_false_iff, ne_eq, Bool.and_eq_true, Option.isNone_iff_eq_none]
      exact needed
    rw [notDue]
    exact .met (fun there => absurd (lacks.1 there) needed) ⟨none, rfl⟩

/-- Repair is the result of its requirements. -/
theorem repair_judged : Judged (Holds m terms i) (fun q e => q.Fault m terms i (.violation e))
    [finalTime .closedAt, finalTime .deletedAt] (i.repair terms.now).1 := by
  rw [Issue.repair_fst]
  have closing : Judged (Holds m terms i) (fun q e => q.Fault m terms i (.violation e))
      [finalTime .closedAt]
      (Issue.finalStamp .closedAt (i.status == .closed) i.closedAt (i.latest terms.now)) :=
    finalStamp_judged (by simp [Issue.Lacks])
  have deletion : Judged (Holds m terms i) (fun q e => q.Fault m terms i (.violation e))
      [finalTime .deletedAt]
      (Issue.finalStamp .deletedAt (i.status == .tombstone) i.deletedAt (i.latest terms.now)) :=
    finalStamp_judged (by simp [Issue.Lacks])
  refine closing.bind fun _ _ _ => deletion.bind fun _ _ _ => ?_
  exact ⟨_, rfl⟩

/-! ## Validation -/

theorem require_judged {q : Requirement} {ok : Bool} {violation : Issue.Violation}
    (holds : ok = true ↔ q.Holds m terms i) (fault : q.Fault m terms i (.violation violation)) :
    Judged (Holds m terms i) (fun q e => q.Fault m terms i (.violation e)) [q]
      (Issue.require ok violation) := by
  cases ok with
  | true => exact .met (holds.1 rfl) ⟨(), rfl⟩
  | false => exact .broken (fun met => absurd (holds.2 met) (by decide)) ⟨_, rfl, fault⟩

theorem checkStamp_judged (stamp : Issue.Stamp) :
    Judged (Holds m terms i) (fun q e => q.Fault m terms i (.violation e)) [years stamp]
      ((i.repaired terms.now).checkStamp stamp) := by
  unfold Issue.checkStamp
  rw [Issue.stamp?_repaired]
  cases hs : i.stampAfter terms.now stamp with
  | none => exact .met (by simp [Holds, hs]) ⟨(), rfl⟩
  | some t => exact require_judged (by simp [Holds, hs, Issue.isStorable]) ⟨t, hs, rfl⟩

/-- After repair closed issues have the time of closing. -/
theorem checkClosing_judged (final : (finalTime .closedAt).Holds m terms i) :
    Judged (Holds m terms i) (fun q e => q.Fault m terms i (.violation e)) [closing]
      (i.repaired terms.now).checkClosing := by
  unfold Issue.checkClosing
  simp only [Issue.repaired, Issue.stampAfter]
  cases hs : i.status with
  | closed =>
    have there : (i.closedAt.or (i.latest terms.now).secondLater?).isSome = true := by
      cases hc : i.closedAt with
      | some t => rfl
      | none => exact final ⟨hs, hc⟩
    obtain ⟨t, ht⟩ := Option.isSome_iff_exists.1 there
    exact .met (.inr (.inl hs)) ⟨(), by simp [ht]⟩
  | tombstone => exact .met (.inr (.inr hs)) ⟨(), by cases i.closedAt <;> rfl⟩
  | _ =>
    cases hc : i.closedAt with
    | none => exact .met (.inl hc) ⟨(), by simp⟩
    | some t => exact .broken (by simp [Holds, hc, hs]) ⟨_, rfl, by simp [Fault, hs]⟩

/-- After repair tombstones have the time of deletion. -/
theorem checkDeletion_judged (final : (finalTime .deletedAt).Holds m terms i) :
    Judged (Holds m terms i) (fun q e => q.Fault m terms i (.violation e)) [deletion]
      (i.repaired terms.now).checkDeletion := by
  unfold Issue.checkDeletion
  simp only [Issue.repaired, Issue.stampAfter]
  cases hs : i.status with
  | tombstone =>
    have there : (i.deletedAt.or (i.latest terms.now).secondLater?).isSome = true := by
      cases hc : i.deletedAt with
      | some t => rfl
      | none => exact final ⟨hs, hc⟩
    obtain ⟨t, ht⟩ := Option.isSome_iff_exists.1 there
    exact .met (.inr hs) ⟨(), by simp [ht]⟩
  | _ =>
    cases hc : i.deletedAt with
    | none => exact .met (.inl hc) ⟨(), by simp⟩
    | some t => exact .broken (by simp [Holds, hc, hs]) ⟨_, rfl, by simp [Fault, hs]⟩

/-- Validation after repair is the result of its requirements. -/
theorem validate_judged (closingTime : (finalTime .closedAt).Holds m terms i)
    (deletionTime : (finalTime .deletedAt).Holds m terms i) :
    Judged (Holds m terms i) (fun q e => q.Fault m terms i (.violation e))
      [titleGiven, titleShort, priority, status, issueType, years .createdAt, years .updatedAt,
        years .closedAt, years .deletedAt, closing, deletion]
      ((i.repaired terms.now).validate m.view.vocabulary) := by
  -- Each check of the repaired issue is the requirement on the issue as it was given.
  refine (require_judged (q := titleGiven) ?_ rfl).bind fun _ _ _ => ?_
  · simp [Holds, Issue.repaired, Nat.one_le_iff_ne_zero]
  refine (require_judged (q := titleShort) ?_ rfl).bind fun _ _ _ => ?_
  · exact decide_eq_true_iff
  refine (require_judged (q := priority) ?_ rfl).bind fun _ _ _ => ?_
  · exact Bool.and_eq_true_iff.trans (and_congr decide_eq_true_iff decide_eq_true_iff)
  refine (require_judged (q := status) ?_ rfl).bind fun _ _ _ => ?_
  · simp [Holds, Issue.repaired, Vocabulary.allowsStatus]
  refine (require_judged (q := issueType) ?_ rfl).bind fun _ _ _ => ?_
  · simp [Holds, Issue.repaired, Vocabulary.allowsType]
  refine (checkStamp_judged .createdAt).bind fun _ _ _ => ?_
  refine (checkStamp_judged .updatedAt).bind fun _ _ _ => ?_
  refine (checkStamp_judged .closedAt).bind fun _ _ _ => ?_
  refine (checkStamp_judged .deletedAt).bind fun _ _ _ => ?_
  exact (checkClosing_judged closingTime).bind fun _ _ _ => checkDeletion_judged deletionTime

/-! ## The identifier -/

/-- A draft gets an identifier if a candidate is free. -/
theorem generate_judged {base : String} (named : m.config.get? Setting.issueSpace = some base)
    (draft : i.id = "") : Judged (Holds m terms i) (Fault m terms i) [freeCandidate]
      ((m.view.generate terms i (Identifier.space base i.spaceToken)).mapError .generation) := by
  rw [View.generate]
  cases free : (m.view.candidates terms i (Identifier.space base i.spaceToken)).find?
      (!m.view.holds ·) with
  | some id =>
    refine .met (fun _ other ho => ?_) ⟨id, rfl⟩
    rw [named, Option.some.injEq] at ho
    subst ho
    have notTaken := List.find?_some free
    exact ⟨id, List.mem_of_find?_eq_some free, by simpa [Memory.view] using notTaken⟩
  | none =>
    refine .broken (fun met => ?_) ⟨_, rfl, base, named, rfl⟩
    obtain ⟨id, candidate, notTaken⟩ := met draft base named
    have taken := List.find?_eq_none.1 free id candidate
    exact taken (by simpa [Memory.view] using notTaken)

/-- The identifier of an issue that is not trusted is checked. -/
theorem checkSpace_judged {base : String} (named : m.config.get? Setting.issueSpace = some base)
    (visible : Text.trim base ≠ "") (given : i.id ≠ "") (strict : terms.mode = .strict) :
    Judged (Holds m terms i) (Fault m terms i) [ownSpace]
      (match Identifier.checkSpace i.id (Identifier.space base i.spaceToken) with
        | .ok () => .ok i.id
        | .error e => .error (.wrongSpace e)) := by
  have nonempty := Identifier.space_ne_empty visible i.spaceToken
  cases checked : Identifier.checkSpace i.id (Identifier.space base i.spaceToken) with
  | ok =>
    refine .met (fun _ => .inr fun other ho => ?_) ⟨i.id, rfl⟩
    rw [named, Option.some.injEq] at ho
    subst ho
    exact (Identifier.checkSpace_eq_ok_iff.1 checked).2
  | error e =>
    have cause := Identifier.eq_of_checkSpace_eq_error checked
    refine .broken (fun met => ?_) ⟨_, rfl, base, named, congrArg _ cause⟩
    rcases met given with trusted | made
    · exact absurd (strict.symm.trans trusted) (by decide)
    · have accepted := Identifier.checkSpace_eq_ok_iff.2 ⟨nonempty, made base named⟩
      rw [checked] at accepted
      cases accepted

/-- A draft has no identifier that could be wrong, and another issue needs no candidate. -/
theorem identify_judged {base : String} (named : m.config.get? Setting.issueSpace = some base)
    (visible : Text.trim base ≠ "") :
    Judged (Holds m terms i) (Fault m terms i) [freeCandidate, ownSpace]
      (m.view.identify terms i (Identifier.space base i.spaceToken)) := by
  rw [View.identify]
  by_cases draft : i.id = ""
  · rw [if_pos (by simpa using draft)]
    exact (generate_judged named draft).append
      (List.forall_mem_singleton.2 fun given => absurd draft given)
  rw [if_neg (by simpa using draft)]
  refine .met (fun none => absurd none draft) ?_
  cases mode : terms.mode with
  | strict => exact checkSpace_judged named visible draft mode
  | trusted => exact .met (fun _ => .inl mode) ⟨i.id, rfl⟩

/-- The choice of an identifier is the result of its requirements. -/
theorem assign_judged : Judged (Holds m terms i) (Fault m terms i)
    [space, freeCandidate, ownSpace] (m.view.assign terms i) := by
  unfold View.assign View.space?
  rw [show m.view.config = m.config.get? from rfl]
  cases named : m.config.get? Setting.issueSpace with
  | none => exact .broken (by simp [Holds, named]) ⟨_, rfl, rfl⟩
  | some base =>
    by_cases blank : Text.trim base = ""
    · have invisible : (Text.trim base).isEmpty = true := by simpa using blank
      simp only [if_pos invisible]
      exact .broken (by simp [Holds, named, blank]) ⟨_, rfl, rfl⟩
    · have visible : ¬ (Text.trim base).isEmpty = true := by simpa using blank
      simp only [if_neg visible]
      exact .met ⟨base, named, blank⟩ (identify_judged named blank)

/-! ## Ingestion -/

/-- Ingestion into the store in memory, phase after phase. -/
theorem ingest_result (m : Memory) (terms : Terms) (i : Issue) :
    (Ingest.ingest Memory.backend terms i m).result = (do
      let _ ← (i.repair terms.now).1.mapError .violation
      let _ ← ((i.repaired terms.now).validate m.view.vocabulary).mapError .violation
      let id ← m.view.assign terms i
      if m.issues.contains id then .error (.insertion id (.alreadyExists id)) else .ok ()) := by
  rw [Ingest.ingest_booked Memory.backend_books, View.decision, Issue.prepare]
  rcases hr : i.repair terms.now with ⟨e | repairs, repaired⟩
  · rfl
  have filled : (i.repair terms.now).2 = i.repaired terms.now :=
    Issue.repair_snd_of_ok (congrArg Prod.fst hr)
  obtain rfl : repaired = i.repaired terms.now := by rw [← filled, hr]
  dsimp only
  cases (i.repaired terms.now).validate m.view.vocabulary with
  | error e => rfl
  | ok =>
    obtain ⟨hash, fingerprinted⟩ := (i.repaired terms.now).withFingerprint_frame
    have assigned : (m.view.assign terms (i.repaired terms.now).withFingerprint :
        Except (IngestError MemoryError) String) = m.view.assign terms i := by
      rw [fingerprinted]
      exact m.view.assign_of_frame terms rfl rfl rfl rfl
    dsimp only
    rw [assigned]
    cases (m.view.assign terms i : Except (IngestError MemoryError) String) with
    | error e => rfl
    | ok id =>
      change _ = if m.issues.contains id = true then _ else _
      by_cases taken : m.issues.contains id = true <;> simp [Memory.refusal?, taken]

/-- Ingestion into the store in memory is the result of all requirements. -/
theorem ingest_judged (m : Memory) (terms : Terms) (i : Issue) :
    Judged (Holds m terms i) (Fault m terms i) all
      (Ingest.ingest Memory.backend terms i m).result := by
  rw [ingest_result]
  refine (repair_judged.mapError (f := IngestError.violation)).bind fun _ _ final => ?_
  have closingTime := final _ List.mem_cons_self
  have deletionTime := final _ (List.mem_cons_of_mem _ List.mem_cons_self)
  have valid := validate_judged closingTime deletionTime
  refine (valid.mapError (f := IngestError.violation)).bind fun _ _ _ => ?_
  refine assign_judged.bind fun id assigned _ => ?_
  -- Only an identifier that came with the issue can be taken: a generated one is free.
  obtain ⟨space, -, own⟩ := View.assign_eq_ok assigned
  by_cases taken : m.issues.contains id = true
  · rw [if_pos taken]
    by_cases draft : i.id = ""
    · rw [if_pos draft] at own
      exact absurd taken (ne_true_of_eq_false own.2)
    · rw [if_neg draft] at own
      obtain ⟨rfl, -⟩ := own
      exact .broken (fun free => by simp [free draft] at taken) ⟨_, rfl, rfl⟩
  · rw [if_neg taken]
    refine .met (fun draft => ?_) ⟨(), rfl⟩
    rw [if_neg draft] at own
    obtain ⟨rfl, -⟩ := own
    simpa using taken

/-- No requirement asks for a final timestamp once repair is done. -/
theorem fault_ne_final {q : Requirement} {e : IngestError MemoryError}
    (fault : q.Fault m terms i e) :
    e ≠ .violation .closedWithoutClosedAt ∧ e ≠ .violation .tombstoneWithoutDeletedAt := by
  cases q with
  | years stamp =>
    obtain ⟨t, -, rfl⟩ := fault
    exact ⟨by simp, by simp⟩
  | freeCandidate | ownSpace =>
    obtain ⟨base, -, rfl⟩ := fault
    exact ⟨by simp, by simp⟩
  | _ =>
    cases fault
    exact ⟨by simp, by simp⟩

end Phases

/-- The store in memory takes an issue in if and only if it meets all requirements. Otherwise the
error is the fault of the first that it does not meet; it is never that a closed issue lacks the
time of closing or a tombstone that of deletion. -/
theorem accepted_iff_requirements (m : Memory) (terms : Terms) (i : Issue) :
    let result := (Ingest.ingest Memory.backend terms i m).result
    (result = .ok () ↔ ∀ q ∈ all, q.Holds m terms i) ∧
      (∀ met q rest, all = met ++ q :: rest → (∀ p ∈ met, p.Holds m terms i) →
        ¬ q.Holds m terms i → ∃ e, result = .error e ∧ q.Fault m terms i e) ∧
      result ≠ .error (.violation .closedWithoutClosedAt) ∧
      result ≠ .error (.violation .tombstoneWithoutDeletedAt) := by
  intro result
  have judged : Judged (Holds m terms i) (Fault m terms i) all result := ingest_judged m terms i
  have neverSaid {e : IngestError MemoryError} (he : result = .error e) :
      e ≠ .violation .closedWithoutClosedAt ∧ e ≠ .violation .tombstoneWithoutDeletedAt := by
    rw [he] at judged
    obtain ⟨q, -, fault⟩ := judged.exists_fault
    exact fault_ne_final fault
  refine ⟨?_, fun met q rest split held broken => ?_, fun he => (neverSaid he).1 rfl,
    fun he => (neverSaid he).2 rfl⟩
  · rw [← judged.ok_iff]
    exact ⟨fun accepted => ⟨(), accepted⟩, fun ⟨(), accepted⟩ => accepted⟩
  · rw [split] at judged
    exact judged.error_of_first held broken

/-- A draft that is closed but has no time of closing is taken in, with the namespace of its own.
With a priority and a type that do not exist it is refused for the priority. -/
theorem accepted_iff_requirements_closed :
    let m := Memory.withSpace "bd"
    let terms : Terms := ⟨"ann", .strict, .epoch⟩
    let draft := { Issue.new "" "T" with status := .closed, spaceToken := "web" }
    let broken := { draft with priority := 9, issueType := .custom "epos" }
    (Ingest.ingest Memory.backend terms draft m).result = .ok () ∧
      (∀ q ∈ all, q.Holds m terms draft) ∧
      (Ingest.ingest Memory.backend terms broken m).result =
        .error (.violation (.priorityOutOfRange 9)) := by
  intro m terms draft broken
  have accepted : (Ingest.ingest Memory.backend terms draft m).result = .ok () := by
    have answered : (Ingest.ingest Memory.backend terms draft m).result.toOption = some () := by
      decide +kernel
    cases hr : (Ingest.ingest Memory.backend terms draft m).result with
    | error e => simp [hr, Except.toOption] at answered
    | ok => rfl
  have later : (broken.latest terms.now).secondLater?.isSome = true := by decide +kernel
  have titled : 1 ≤ broken.title.length ∧ broken.title.length ≤ 500 := by decide
  have held : ∀ p ∈ [finalTime .closedAt, finalTime .deletedAt, titleGiven, titleShort],
      p.Holds m terms broken := by
    simp only [List.forall_mem_cons]
    exact ⟨fun _ => later, fun _ => later, titled.1, titled.2, by simp⟩
  obtain ⟨e, refused, rfl⟩ :=
    (accepted_iff_requirements m terms broken).2.1 _ priority _ rfl held (by simp [Holds, broken])
  exact ⟨accepted, (accepted_iff_requirements m terms draft).1.1 accepted, refused⟩

end IssueIntake
