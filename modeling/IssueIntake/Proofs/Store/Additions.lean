import IssueIntake.Proofs.Store.OneByOne
import IssueIntake.Store.Failing
/-!
# What taking issues in adds

Whoever takes issues in adds a row, an event and a mark for each of them, under identifiers that are
all different and new, and changes nothing else (`Tables.Adds`). The events come in the order in
which the issues are taken in. A batch and a single issue both do that, whatever statements may
fail, if they are taken in at all (`adds_of_importBatchBy`, `adds_of_createIssueBy`).
-/

namespace IssueIntake

/-- Issues with the terms on which they are taken in, as the places of a batch. -/
def BatchTerms.entries (terms : BatchTerms) (stored : List Issue) : List (Terms × Issue) :=
  stored.mapIdx fun place j => (terms.atPlace place, j)

theorem BatchTerms.entries_ids (terms : BatchTerms) (stored : List Issue) :
    (terms.entries stored).map (·.2.id) = stored.map Issue.id :=
  List.ext_getElem (by simp [entries]) (by simp [entries])

namespace Tables

variable {t u : Tables} {terms : Terms} {j : Issue} {entries : List (Terms × Issue)}

/-- Tables hold a row, an event and a mark more for each of some issues, and are the same else. -/
structure Adds (entries : List (Terms × Issue)) (t u : Tables) : Prop where
  distinct : (entries.map (·.2.id)).Nodup
  new : ∀ e ∈ entries, t.issues.contains e.2.id = false
  keys : u.issues.keys.Perm (entries.map (·.2.id) ++ t.issues.keys)
  row : ∀ e ∈ entries, u.issues.get? e.2.id = some (.encode e.2)
  otherRows : ∀ id ∉ entries.map (·.2.id), u.issues.get? id = t.issues.get? id
  /-- The order of the issues is that of their events. -/
  events : u.events = t.events ++ entries.map fun e =>
    .encode (.created e.2 e.1.actor e.1.now)
  mark : ∀ e ∈ entries, u.dirty.get? e.2.id = some (e.1.now.text .stored)
  otherMarks : ∀ id ∉ entries.map (·.2.id), u.dirty.get? id = t.dirty.get? id
  config : u.config = t.config
  nameless : u.namelessIssues = t.namelessIssues ∧ u.namelessMarks = t.namelessMarks

namespace Adds

theorem nil (t : Tables) : Adds [] t t where
  distinct := List.nodup_nil
  new := by simp
  keys := .refl _
  row := by simp
  otherRows _ _ := rfl
  events := (List.append_nil _).symm
  mark := by simp
  otherMarks _ _ := rfl
  config := rfl
  nameless := ⟨rfl, rfl⟩

/-- An entry and then others. -/
theorem cons (fresh : t.issues.contains j.id = false)
    (later : Adds entries (t.book terms j) u) : Adds ((terms, j) :: entries) t u := by
  have others : ∀ e ∈ entries, e.2.id ≠ j.id ∧ t.issues.contains e.2.id = false := by
    intro e he
    have new := later.new e he
    simpa only [book, Keyed.contains_insert, Bool.or_eq_false_iff, beq_eq_false_iff_ne] using new
  have first : j.id ∉ entries.map (·.2.id) := by
    intro there
    obtain ⟨e, he, same⟩ := List.mem_map.1 there
    exact (others e he).1 same
  refine ⟨List.nodup_cons.2 ⟨first, later.distinct⟩,
    List.forall_mem_cons.2 ⟨fresh, fun e he => (others e he).2⟩, ?_,
    List.forall_mem_cons.2 ⟨?_, later.row⟩, fun id other => ?_, ?_,
    List.forall_mem_cons.2 ⟨?_, later.mark⟩, fun id other => ?_, later.config, later.nameless⟩
  · have entered := (Keyed.keys_insert_perm fresh (.encode j)).append_left (entries.map (·.2.id))
    exact (later.keys.trans entered).trans List.perm_middle
  · rw [later.otherRows _ first, book, Keyed.get?_insert, if_pos rfl]
  · rw [List.map_cons, List.mem_cons, not_or] at other
    rw [later.otherRows _ other.2, book, Keyed.get?_insert, if_neg other.1]
  · rw [later.events, book, List.append_assoc, List.map_cons, List.singleton_append]
  · rw [later.otherMarks _ first, book, Keyed.get?_insert, if_pos rfl]
  · rw [List.map_cons, List.mem_cons, not_or] at other
    rw [later.otherMarks _ other.2, book, Keyed.get?_insert, if_neg other.1]

end Adds

/-- Records that are taken in add their issues, each on the terms of its record. -/
theorem adds_of_taken {records : List (Terms × Issue × Nat)} {stored : List Issue}
    (taken : Ingest.Taken view refusal? (fun terms i w => w.book terms i) records t stored u) :
    Adds ((records.map Prod.fst).zip stored) t u := by
  induction taken with
  | done w => exact .nil w
  | record decided new later ih => exact .cons (contains_eq_false_of_refusal new) ih

/-- The issues of a batch are taken in on the terms of their places. -/
theorem zip_schedule {terms : BatchTerms} {batch stored : List Issue}
    (all : stored.length = (Ingest.schedule terms batch).length) :
    ((Ingest.schedule terms batch).map Prod.fst).zip stored = terms.entries stored := by
  refine List.ext_getElem ?_ fun place _ _ => ?_
  · simp [BatchTerms.entries, all]
  · simp [BatchTerms.entries, Ingest.schedule]

/-! ## Statements that fail -/

theorem refuse_follows {α : Type} (faults : Faults) (statement : Statement)
    (c : Call Tables StoreError α) : (faults.refuse statement c).Follows c := by
  intro t a u ran
  cases fault : faults t statement with
  | none => rwa [Faults.run_refuse_of_none fault] at ran
  | some cause =>
    rw [Faults.run_refuse_of_some fault] at ran
    cases ran

/-- Where statements may fail, calls that succeed do the same. -/
theorem failing_follows (faults : Faults) : (failing faults).Follows backend := by
  have names : ∀ key, (Setting.names (failing faults).configValue key).Follows
      (Setting.names backend.configValue key) := fun key =>
    (refuse_follows faults _ _).andThen fun _ => .refl _
  exact {
    configValue := fun _ => refuse_follows _ _ _
    customStatuses := names _
    customTypes := names _
    issueExists := fun _ => refuse_follows _ _ _
    countTopLevel := fun _ => refuse_follows _ _ _
    insert := fun _ => refuse_follows _ _ _
    recordEvent := fun _ => refuse_follows _ _ _
    markDirty := fun _ _ => refuse_follows _ _ _ }

/-- A batch that is imported adds its issues, and is reported by their identifiers. -/
theorem adds_of_importBatchBy {faults : Faults} {terms : BatchTerms} {batch : List Issue}
    {ids : List String}
    (imported : (importBatchBy (failing faults) terms batch).run t = (.ok ids, u)) :
    ∃ stored, ids = stored.map Issue.id ∧ Adds (terms.entries stored) t u := by
  have ran := Call.atomically_eq_ok_iff.1 imported
  have ran := Ingest.ingestAll_follows (failing_follows faults) _ _ _ _ ran
  obtain ⟨stored, taken, rfl⟩ := (Ingest.ingestAll_eq_ok_iff backend_books).1 ran
  have adds := adds_of_taken taken
  rw [zip_schedule taken.length_eq] at adds
  exact ⟨stored, rfl, adds⟩

/-- The priority of an issue whose row breaks no rule. -/
theorem priority_of_unbroken (unbroken : (IssueRow.encode j).brokenRule? = none) :
    0 ≤ j.priority ∧ j.priority ≤ 4 := by
  have meets : (IssueRow.encode j).meets .priorityRange = true := by
    simpa using List.find?_eq_none.1 unbroken .priorityRange (by simp)
  obtain ⟨low, high⟩ := Bool.and_eq_true_iff.1 meets
  exact ⟨of_decide_eq_true low, of_decide_eq_true high⟩

/-- An issue that is taken in is added, and its priority is one that a row can have. -/
theorem adds_of_createIssueBy {faults : Faults} {i : Issue}
    (created : (createIssueBy (failing faults) terms i).run t = (.ok j, u)) :
    Adds [(terms, j)] t u ∧ 0 ≤ j.priority ∧ j.priority ≤ 4 := by
  have ran := Call.atomically_eq_ok_iff.1 created
  have ran := Ingest.ingestCall_follows (failing_follows faults) terms i _ _ _ ran
  obtain ⟨-, new, rfl⟩ :=
    (Ingest.ingest_eq_ok_iff backend_books).1 (Ingest.ingestCall_eq_ok_iff.1 ran)
  exact ⟨.cons (contains_eq_false_of_refusal new) (.nil _),
    priority_of_unbroken (brokenRule?_eq_none_of_refusal new)⟩

end Tables

end IssueIntake
