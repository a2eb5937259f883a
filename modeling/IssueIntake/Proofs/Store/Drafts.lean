import IssueIntake.Proofs.Ingest.Assigned
import IssueIntake.Proofs.Store.OneByOne
/-!
# Drafts beside explicit identifiers

The identifier of a draft is the first of its candidates that is free when the draft is taken in.
Identifiers that come with later records of the same batch are free then, so a draft can take one
of them, and the batch fails at the record that it came with
(`importBatch_draft_takes_explicit_id`). A batch whose own identifiers are new and different fails
for a taken identifier in no other way (`taken_by_earlier_draft`).
-/

namespace IssueIntake

namespace Ingest

/-- Of two records that lie equally deep the one that comes before the other is given before it. -/
theorem Before.lt_of_depth_eq {a b : Issue × Nat} (h : Before a b)
    (same : Identifier.depth a.1.id = Identifier.depth b.1.id) : a.2 < b.2 := by
  rcases h with deeper | ⟨-, earlier⟩
  · omega
  · exact earlier

/-- Where the identifiers that come with a batch are different, no two records share one. -/
theorem ne_of_distinct {batch : List Issue}
    (distinct : ((batch.map Issue.id).filter (· ≠ "")).Nodup) {p q : Nat} (less : p < q)
    {i j : Issue} (first : batch[p]? = some i) (second : batch[q]? = some j)
    (explicit : i.id ≠ "") : i.id ≠ j.id := by
  intro same
  rw [List.Nodup, List.pairwise_filter, List.pairwise_map, List.pairwise_iff_getElem] at distinct
  obtain ⟨hp, rfl⟩ := List.getElem?_eq_some_iff.1 first
  obtain ⟨hq, rfl⟩ := List.getElem?_eq_some_iff.1 second
  exact distinct p q hp hq less (by simpa using explicit) (by simpa using same ▸ explicit) same

end Ingest

namespace Tables

/-- During the import of a batch a record of it is taken in under an identifier, after the records
that come before it. -/
def Names (t : Tables) (terms : BatchTerms) (batch : List Issue) (position : Nat) (id : String) :
    Prop :=
  ∃ before own i after ids v w,
    Ingest.schedule terms batch = before ++ (own, i, position) :: after ∧
      (Ingest.ingestAll backend before).run t = (.ok ids, v) ∧
      (Ingest.ingestRecord backend own (i, position)).run v = (.ok id, w)

/-- An identifier is one of those that can be generated for an issue during a batch. -/
def Offers (t : Tables) (terms : BatchTerms) (i : Issue) (id : String) : Prop :=
  ∃ base, t.config.get? Setting.issueSpace = some base ∧ Text.trim base ≠ "" ∧
    ∃ place, ∃ attempt ∈ Generate.attempts Generate.minLength,
      Generate.candidate (Identifier.space base i.spaceToken) i terms.actor (terms.clock place)
        attempt = id

variable {t w : Tables} {terms : BatchTerms} {batch : List Issue} {js : List Issue}
  {before after : List (Terms × Issue × Nat)} {id : String}

/-- What is in the tables after the first records of a batch, and was not there before, is the
identifier that one of them was given: its own one, or one that it was offered. -/
theorem names_of_new (parts : Ingest.schedule terms batch = before ++ after)
    (stored : Ingest.Taken view refusal? (fun terms i w => w.book terms i) before t js w)
    (new : t.issues.contains id = false) (holds : w.issues.contains id = true) :
    ∃ record ∈ before, t.Names terms batch record.2.2 id ∧
      if record.2.1.id = "" then t.Offers terms record.2.1 id else record.2.1.id = id := by
  have entered : id ∈ js.map Issue.id := by
    by_contra other
    rw [Keyed.contains_eq_isSome, ← other_of_taken stored other, ← Keyed.contains_eq_isSome,
      holds] at new
    cases new
  obtain ⟨j, hj, rfl⟩ := List.mem_map.1 entered
  obtain ⟨first, ⟨own, i, position⟩, rest, earlier, v, rfl, taken, decided, accepted⟩ :=
    stored.admitted j hj
  have here : (own, i, position) ∈ first ++ (own, i, position) :: rest :=
    List.mem_append_right _ List.mem_cons_self
  refine ⟨_, here, ⟨first, own, i, rest ++ after, _, v, _, by simp [parts],
    (Ingest.ingestAll_eq_ok_iff backend_books).2 ⟨_, taken, rfl⟩,
    (Ingest.ingestRecord_eq_ok_iff backend_books).2 ⟨j, decided, accepted, rfl, rfl⟩⟩, ?_⟩
  by_cases draft : i.id = ""
  · obtain ⟨-, space, spaced, attempt, offered, generated⟩ :=
      View.candidate_of_decision decided draft
    obtain ⟨base, configured, some, rfl⟩ := View.space?_eq_some_iff.1 spaced
    obtain ⟨place, rfl⟩ := Ingest.exists_place_of_mem_schedule
      (parts ▸ List.mem_append_left _ here : _ ∈ Ingest.schedule terms batch)
    rw [if_pos draft]
    exact ⟨base, config_of_taken taken ▸ configured, some, place, attempt, offered, generated⟩
  · rw [if_neg draft]
    exact (View.id_of_decision decided draft).symm

/-- Identifiers that are offered lie at the top of their namespace. -/
theorem Offers.depth_eq_zero {i : Issue} (offered : t.Offers terms i id) :
    Identifier.depth id = 0 := by
  obtain ⟨base, -, some, place, attempt, there, rfl⟩ := offered
  exact Generate.depth_candidate there _ _ _ _ (Identifier.space_ne_empty some _)

end Tables

/-- A draft is given the identifier that the record after it comes with, and the batch fails, though
the identifier is the only one that comes with a record and is not stored. -/
theorem importBatch_draft_takes_explicit_id :
    let t := Tables.empty.setConfig Setting.issueSpace "bd"
    let batch := [Issue.new "" "Fix the parser", Issue.new "bd-gnx" "Test the parser"]
    (∃ base, t.config.get? Setting.issueSpace = some base ∧ Text.trim base ≠ "") ∧
      ((batch.map Issue.id).filter (· ≠ "")).Nodup ∧
      (∀ i ∈ batch, i.id ≠ "" → t.issues.contains i.id = false) ∧
      (Tables.importBatch ⟨"ann", .strict, .epoch⟩ batch).run t =
        (.error ⟨1, "bd-gnx", .insertion "bd-gnx" (.alreadyExists "bd-gnx")⟩, t) :=
  ⟨⟨"bd", by decide +kernel, by decide +kernel⟩, by decide +kernel, by decide +kernel,
    by decide +kernel⟩

/-- Where the identifiers that come with a batch are new and different, the batch fails for a taken
identifier only at a record that comes with it, and only if a draft that is given before that record
has been given the identifier as one of its candidates. -/
theorem taken_by_earlier_draft {terms : BatchTerms} {batch : List Issue} {t u : Tables}
    {e : BatchError StoreError} {id taken : String}
    (distinct : ((batch.map Issue.id).filter (· ≠ "")).Nodup)
    (fresh : ∀ i ∈ batch, i.id ≠ "" → t.issues.contains i.id = false)
    (failed : (Tables.importBatchBy Tables.backend terms batch).run t = (.error e, u))
    (cause : e.cause = .insertion id (.alreadyExists taken)) :
    (∃ i, batch[e.position]? = some i ∧ i.id = id) ∧ id ≠ "" ∧ taken = id ∧
      ∃ earlier draft, earlier < e.position ∧ batch[earlier]? = some draft ∧ draft.id = "" ∧
        t.Names terms batch earlier id ∧ t.Offers terms draft id := by
  obtain ⟨-, w, halted⟩ := Tables.halted_of_importBatchBy failed
  cases halted with
  | @record before after own i position js j _ _ parts stored refused =>
    obtain rfl := cause
    obtain ⟨decided, refusal, rfl, -⟩ :=
      (Ingest.ingest_eq_insertion_iff Tables.backend_books).1 refused
    obtain ⟨holds, rfl⟩ := Tables.contains_of_refusal refusal
    have explicit : i.id ≠ "" := by
      intro draft
      have free := (View.candidate_of_decision decided draft).1
      rw [show w.issues.contains j.id = false from free] at holds
      cases holds
    have kept := View.id_of_decision decided explicit
    have here : batch[position]? = some i :=
      Ingest.getElem?_of_mem_schedule (parts ▸ List.mem_append_right _ List.mem_cons_self)
    have new : t.issues.contains j.id = false :=
      kept ▸ fresh i (List.mem_of_getElem? here) explicit
    refine ⟨⟨i, here, kept.symm⟩, kept ▸ explicit, rfl, ?_⟩
    -- A record that was taken in before has the identifier. It is less deep, or given before.
    obtain ⟨⟨own', d, earlier⟩, hr, names, source⟩ := Tables.names_of_new parts stored new holds
    have there : batch[earlier]? = some d :=
      Ingest.getElem?_of_mem_schedule (parts ▸ List.mem_append_left _ hr)
    have order := Ingest.before_of_schedule parts _ hr
    by_cases draft : d.id = ""
    · rw [if_pos draft] at source
      have top : Identifier.depth d.id = Identifier.depth i.id := by
        rw [draft, ← kept, source.depth_eq_zero]
        rfl
      exact ⟨earlier, d, order.lt_of_depth_eq top, there, draft, names, source⟩
    · rw [if_neg draft] at source
      have same : d.id = i.id := source.trans kept
      have first : earlier < position := order.lt_of_depth_eq (congrArg Identifier.depth same)
      exact absurd same (Ingest.ne_of_distinct distinct first there here draft)

/-- A child that is given first and taken in last, and a draft before the identifier it gets. -/
theorem taken_by_earlier_draft_trusted :
    let t := Tables.empty.setConfig Setting.issueSpace "bd"
    let batch := [Issue.new "bd-1.1" "Split the parser", Issue.new "" "Fix the parser",
      Issue.new "bd-gnx" "Test the parser"]
    let terms := BatchTerms.still ⟨"ann", .trusted, .epoch⟩
    (Tables.importBatchBy Tables.backend terms batch).run t =
        (.error ⟨2, "bd-gnx", .insertion "bd-gnx" (.alreadyExists "bd-gnx")⟩, t) ∧
      ∃ earlier draft, earlier < 2 ∧ batch[earlier]? = some draft ∧ draft.id = "" ∧
        t.Names terms batch earlier "bd-gnx" ∧ t.Offers terms draft "bd-gnx" := by
  intro t batch terms
  have failed : (Tables.importBatchBy Tables.backend terms batch).run t =
      (.error ⟨2, "bd-gnx", .insertion "bd-gnx" (.alreadyExists "bd-gnx")⟩, t) := by
    decide +kernel
  have distinct : ((batch.map Issue.id).filter (· ≠ "")).Nodup := by decide +kernel
  have fresh : ∀ i ∈ batch, i.id ≠ "" → t.issues.contains i.id = false := by decide +kernel
  exact ⟨failed, (taken_by_earlier_draft distinct fresh failed rfl).2.2.2⟩

end IssueIntake
