import IssueIntake.Proofs.Ingest.Assigned
import IssueIntake.Proofs.Store.OneByOne
/-!
# Batches in any order

An issue that comes with an identifier is admitted or not whatever else is in the tables, and is
refused for its identifier only. So two such issues can be taken in one after the other in any
order (`createIssue_swap`), and from that whatever the order of a batch (`mapM_createIssue_perm`).
What is left differs in the order of the events. `importBatch_any_order` says so of imports, which
take the records in by depth.
-/

namespace IssueIntake

namespace Tables

variable {t t' u u' w : Tables} {terms : Terms} {i j k l : Issue}

/-! ## Tables up to the order of events -/

/-- Tables hold the same, but for the order of the events. -/
structure Alike (t u : Tables) : Prop where
  others : u = { t with events := u.events }
  events : t.events.Perm u.events

namespace Alike

theorem refl (t : Tables) : t.Alike t :=
  ⟨rfl, .refl _⟩

theorem trans (h : t.Alike u) (h' : u.Alike w) : t.Alike w :=
  ⟨h'.others.trans (by rw [h.others]), h.events.trans h'.events⟩

/-- Ingestion sees no difference. -/
theorem view (h : t.Alike u) : u.view = t.view := by
  rw [h.others]
  rfl

theorem refusal? (h : t.Alike u) (i : Issue) : refusal? i u = Tables.refusal? i t := by
  rw [h.others]
  rfl

theorem book (h : t.Alike u) (terms : Terms) (i : Issue) :
    (t.book terms i).Alike (u.book terms i) where
  others := by
    rw [h.others]
    rfl
  events := h.events.append_right _

end Alike

/-- An issue that is taken in is taken in where the order of the events is another one. -/
theorem createIssue_of_alike (alike : t.Alike t')
    (created : (createIssue terms i).run t = (.ok j, u)) :
    ∃ u', (createIssue terms i).run t' = (.ok j, u') ∧ u.Alike u' := by
  obtain ⟨decided, new, rfl⟩ := createIssue_eq_ok_iff.1 created
  refine ⟨t'.book terms j, createIssue_eq_ok_iff.2 ⟨?_, ?_, rfl⟩, alike.book terms j⟩
  · rwa [alike.view]
  · rwa [alike.refusal?]

/-! ## Two issues -/

/-- After an entry only its identifier is refused that was not refused before. -/
theorem refusal?_book_eq_none_iff : refusal? k (t.book terms j) = none ↔
    refusal? k t = none ∧ k.id ≠ j.id := by
  unfold refusal?
  cases (IssueRow.encode k).brokenRule? with
  | some rule => simp
  | none =>
    simp only [book, Keyed.contains_insert]
    by_cases same : k.id = j.id <;> simp [same]

/-- Entries under different identifiers can be made in any order. -/
theorem book_alike (terms : Terms) (different : j.id ≠ k.id) :
    ((t.book terms j).book terms k).Alike ((t.book terms k).book terms j) where
  others := by
    simp only [book, Tables.mk.injEq, true_and, and_true]
    exact ⟨(Keyed.insert_comm _ different _ _).symm, (Keyed.insert_comm _ different _ _).symm⟩
  events := by
    simp only [book, List.append_assoc, List.singleton_append]
    exact (List.Perm.swap _ _ _).append_left _

/-- Of two issues with identifiers that are taken in the second one can come first. -/
theorem createIssue_swap (named : i.id ≠ "") (named' : k.id ≠ "")
    (first : (createIssue terms i).run t = (.ok j, u))
    (second : (createIssue terms k).run u = (.ok l, w)) :
    ∃ u' w', (createIssue terms k).run t = (.ok l, u') ∧
      (createIssue terms i).run u' = (.ok j, w') ∧ w.Alike w' := by
  obtain ⟨decided, new, rfl⟩ := createIssue_eq_ok_iff.1 first
  obtain ⟨decided', new', rfl⟩ := createIssue_eq_ok_iff.1 second
  obtain ⟨before, different⟩ := refusal?_book_eq_none_iff.1 new'
  refine ⟨t.book terms l, (t.book terms l).book terms j,
    createIssue_eq_ok_iff.2 ⟨?_, before, rfl⟩,
    createIssue_eq_ok_iff.2 ⟨?_, refusal?_book_eq_none_iff.2 ⟨new, different.symm⟩, rfl⟩,
    book_alike terms different.symm⟩
  · rw [← decided']
    exact View.decision_congr_of_named rfl named'
  · rw [← decided]
    exact View.decision_congr_of_named rfl named

/-! ## Batches -/

/-- Issues that are taken in one by one are so where the order of the events is another one. -/
theorem mapM_createIssue_of_alike {batch stored : List Issue} (alike : t.Alike t')
    (created : (batch.mapM (createIssue terms)).run t = (.ok stored, u)) :
    ∃ u', (batch.mapM (createIssue terms)).run t' = (.ok stored, u') ∧ u.Alike u' := by
  induction batch generalizing t t' stored with
  | nil =>
    cases created
    exact ⟨t', rfl, alike⟩
  | cons i batch ih =>
    simp only [List.mapM_cons, Call.run_bind_eq_ok_iff] at created ⊢
    obtain ⟨j, v, first, rest, w, later, answer⟩ := created
    cases answer
    obtain ⟨v', first', alike'⟩ := createIssue_of_alike alike first
    obtain ⟨u', later', alike''⟩ := ih alike' later
    exact ⟨u', ⟨j, v', first', rest, u', later', rfl⟩, alike''⟩

/-- Issues with identifiers that are taken in one by one are taken in in any other order. -/
theorem mapM_createIssue_perm {batch other stored : List Issue} (same : batch.Perm other)
    (explicit : ∀ i ∈ batch, i.id ≠ "")
    (created : (batch.mapM (createIssue terms)).run t = (.ok stored, u)) :
    ∃ others u', (other.mapM (createIssue terms)).run t = (.ok others, u') ∧
      stored.Perm others ∧ u.Alike u' := by
  induction same generalizing t stored u with
  | nil => exact ⟨stored, u, created, .refl _, .refl u⟩
  | cons i _ ih =>
    simp only [List.mapM_cons, Call.run_bind_eq_ok_iff] at created ⊢
    obtain ⟨j, v, first, rest, w, later, answer⟩ := created
    cases answer
    obtain ⟨others, u', later', moved, alike⟩ := ih (List.forall_mem_cons.1 explicit).2 later
    exact ⟨j :: others, u', ⟨j, v, first, others, u', later', rfl⟩, moved.cons j, alike⟩
  | swap k i rest =>
    obtain ⟨named, others⟩ := List.forall_mem_cons.1 explicit
    have named' := others k List.mem_cons_self
    simp only [List.mapM_cons, Call.run_bind_eq_ok_iff] at created ⊢
    obtain ⟨j, v, first, _, _, ⟨l, w, second, js, _, later, answer'⟩, answer⟩ := created
    cases answer'
    cases answer
    obtain ⟨v', w', first', second', alike⟩ := createIssue_swap named named' first second
    obtain ⟨u', later', alike'⟩ := mapM_createIssue_of_alike alike later
    exact ⟨l :: j :: js, u', ⟨l, v', first', _, u', ⟨j, w', second', js, u', later', rfl⟩, rfl⟩,
      .swap l j js, alike'⟩
  | trans earlier _ ih ih' =>
    obtain ⟨stored', v, there, moved, alike⟩ := ih explicit created
    obtain ⟨others, u', here, moved', alike'⟩ :=
      ih' (fun i hi => explicit i (earlier.mem_iff.2 hi)) there
    exact ⟨others, u', here, moved.trans moved', alike.trans alike'⟩

/-- An import is what its records leave when they are taken in one by one by depth. -/
theorem importBatch_eq_ok_iff {batch : List Issue} {ids : List String} :
    (importBatch terms batch).run t = (.ok ids, u) ↔ ∃ stored,
      (((Ingest.ordered batch).map Prod.fst).mapM (createIssue terms)).run t = (.ok stored, u) ∧
        ids = stored.map Issue.id := by
  rw [importBatch, importBatchBy_eq_ok_iff, Ingest.schedule_still]
  exact exists_congr fun stored => and_congr_left' mapM_createIssue_eq_ok_iff.symm

/-- A batch of issues with identifiers that is imported is imported in any other order. -/
theorem importBatch_perm {batch other : List Issue} (same : batch.Perm other)
    (explicit : ∀ i ∈ batch, i.id ≠ "") {ids : List String}
    (imported : (importBatch terms batch).run t = (.ok ids, u)) :
    ∃ ids' u', (importBatch terms other).run t = (.ok ids', u') ∧ ids.Perm ids' ∧ u.Alike u' := by
  obtain ⟨stored, created, rfl⟩ := importBatch_eq_ok_iff.1 imported
  have issues : ∀ batch, ((Ingest.ordered batch).map Prod.fst).Perm batch := fun batch => by
    simpa using (Ingest.ordered_perm batch).map Prod.fst
  obtain ⟨others, u', created', moved, alike⟩ :=
    mapM_createIssue_perm ((issues batch).trans (same.trans (issues other).symm))
      (fun i hi => explicit i ((issues batch).mem_iff.1 hi)) created
  exact ⟨others.map Issue.id, u', importBatch_eq_ok_iff.2 ⟨others, created', rfl⟩,
    moved.map Issue.id, alike⟩

end Tables

/-! ## Imports in any order -/

/-- Whether a batch of issues with identifiers is imported does not depend on the order of its
records, and neither does what it leaves, but for the order of the events: the same rows of issues,
the same marks, with and without identifiers, the same settings, and the same events. -/
theorem importBatch_any_order (terms : Terms) (t : Tables) {batch other : List Issue}
    (same : batch.Perm other) (explicit : ∀ i ∈ batch, i.id ≠ "") :
    ((∃ ids u, (Tables.importBatch terms batch).run t = (.ok ids, u)) ↔
      ∃ ids u, (Tables.importBatch terms other).run t = (.ok ids, u)) ∧
    ∀ ids u ids' u', (Tables.importBatch terms batch).run t = (.ok ids, u) →
      (Tables.importBatch terms other).run t = (.ok ids', u') →
        ids.Perm ids' ∧ u.issues = u'.issues ∧ u.dirty = u'.dirty ∧ u.config = u'.config ∧
          u.namelessIssues = u'.namelessIssues ∧ u.namelessMarks = u'.namelessMarks ∧
          u.events.Perm u'.events := by
  have explicit' : ∀ i ∈ other, i.id ≠ "" := fun i hi => explicit i (same.mem_iff.2 hi)
  refine ⟨⟨?_, ?_⟩, fun ids u ids' u' imported imported' => ?_⟩
  · rintro ⟨ids, u, imported⟩
    obtain ⟨ids', u', imported', -⟩ := Tables.importBatch_perm same explicit imported
    exact ⟨ids', u', imported'⟩
  · rintro ⟨ids, u, imported⟩
    obtain ⟨ids', u', imported', -⟩ := Tables.importBatch_perm same.symm explicit' imported
    exact ⟨ids', u', imported'⟩
  · obtain ⟨_, _, there, moved, alike⟩ := Tables.importBatch_perm same explicit imported
    cases imported'.symm.trans there
    have others {α : Type} (part : Tables → α)
        (kept : part { u with events := u'.events } = part u) : part u = part u' := by
      rw [alike.others, kept]
    exact ⟨moved, others Tables.issues rfl, others Tables.dirty rfl, others Tables.config rfl,
      others Tables.namelessIssues rfl, others Tables.namelessMarks rfl, alike.events⟩

/-- Two issues, in both orders. -/
theorem importBatch_any_order_two :
    let terms : Terms := ⟨"ann", .strict, .epoch⟩
    let t := Tables.empty.setConfig Setting.issueSpace "bd"
    let first := { Issue.new "bd-1" "Fix the parser" with contentHash := "0" }
    let second := { Issue.new "bd-2" "Fix the printer" with contentHash := "0" }
    let run (batch : List Issue) := (Tables.importBatch terms batch).run t
    (run [first, second]).1 = .ok ["bd-1", "bd-2"] ∧
      (run [second, first]).1 = .ok ["bd-2", "bd-1"] ∧
      (run [first, second]).2.events ≠ (run [second, first]).2.events ∧
      (run [first, second]).2.issues = (run [second, first]).2.issues ∧
      (run [first, second]).2.dirty = (run [second, first]).2.dirty ∧
      (run [first, second]).2.events.Perm (run [second, first]).2.events := by
  intro terms t first second run
  have imported : (run [first, second]).1 = .ok ["bd-1", "bd-2"] := by decide +kernel
  have imported' : (run [second, first]).1 = .ok ["bd-2", "bd-1"] := by decide +kernel
  obtain ⟨-, issues, marks, -, -, -, events⟩ :=
    (importBatch_any_order terms t (.swap second first []) (by decide)).2 _ _ _ _
      (Prod.ext imported rfl) (Prod.ext imported' rfl)
  exact ⟨imported, imported', by decide +kernel, issues, marks, events⟩

end IssueIntake
