import IssueIntake.Proofs.Identifier.Grammar
import IssueIntake.Proofs.Store.Drafts
import Mathlib.Data.Fintype.EquivFin
/-!
# Parents come first

The records of a batch are taken in at places of their own: each place has one record, and each
record one place (`exists_source`). A record that is less deep has the earlier place, and so an
identifier comes before all that lie below it (`importBatch_parents_first`).
-/

namespace IssueIntake

namespace Ingest

/-! ## Places -/

theorem Before.ne {a b : Issue × Nat} (h : Before a b) : a ≠ b := by
  rintro rfl
  rcases h with deeper | ⟨-, earlier⟩
  · exact Nat.lt_irrefl _ deeper
  · exact Nat.lt_irrefl _ earlier

theorem length_ordered (batch : List Issue) : (ordered batch).length = batch.length := by
  rw [(ordered_perm batch).length_eq, List.length_zipIdx]

theorem lt_length_ordered {batch : List Issue} (place : Fin batch.length) :
    place.val < (ordered batch).length := by
  rw [length_ordered]
  exact place.isLt

/-- At each place one of the records is taken in, and each of them is taken in at one place. -/
theorem exists_source (batch : List Issue) : ∃ source : Fin batch.length ≃ Fin batch.length,
    ∀ place : Fin batch.length,
      (ordered batch)[place.val]? = some (batch[source place], (source place).val) := by
  have given (place : Fin batch.length) : ∃ position : Fin batch.length,
      (ordered batch)[place.val]? = some (batch[position], position.val) := by
    have here := List.getElem?_eq_getElem (lt_length_ordered place)
    obtain ⟨within, same⟩ := List.getElem?_eq_some_iff.1
      (mem_ordered_iff.1 (List.mem_of_getElem? here))
    exact ⟨⟨_, within⟩, here.trans (congrArg some (Prod.ext same.symm rfl))⟩
  choose source there using given
  have distinct : (ordered batch).Nodup := (ordered_pairwise batch).imp Before.ne
  have injective : Function.Injective source := by
    intro place other same
    have twice : (ordered batch)[place.val]? = (ordered batch)[other.val]? := by
      rw [there, there, same]
    exact Fin.ext ((List.getElem?_inj (lt_length_ordered place) distinct).1 twice)
  exact ⟨.ofBijective source (Finite.injective_iff_bijective.1 injective), there⟩

section Places

variable {batch : List Issue} {source : Fin batch.length ≃ Fin batch.length}
  (there : ∀ place : Fin batch.length,
    (ordered batch)[place.val]? = some (batch[source place], (source place).val))

include there

theorem before_of_lt {place other : Fin batch.length} (less : place < other) :
    Before (batch[source place], (source place).val) (batch[source other], (source other).val) := by
  obtain ⟨inside, here⟩ := List.getElem?_eq_some_iff.1 (there place)
  obtain ⟨within, next⟩ := List.getElem?_eq_some_iff.1 (there other)
  rw [← here, ← next]
  exact List.pairwise_iff_getElem.1 (ordered_pairwise batch) _ _ inside within less

/-- A record that is less deep is taken in before. -/
theorem lt_of_depth_lt {place other : Fin batch.length}
    (less : Identifier.depth batch[source place].id < Identifier.depth batch[source other].id) :
    place < other := by
  by_contra not
  rcases lt_or_eq_of_le (not_lt.1 not) with later | rfl
  · have order := before_of_lt there later
    simp only [Before] at order
    omega
  · exact lt_irrefl _ less

/-- Records that are equally deep are taken in as they are given. -/
theorem lt_iff_of_depth_eq {place other : Fin batch.length}
    (same : Identifier.depth batch[source place].id = Identifier.depth batch[source other].id) :
    place < other ↔ source place < source other := by
  constructor
  · exact fun less => (before_of_lt there less).lt_of_depth_eq same
  · intro earlier
    by_contra not
    rcases lt_or_eq_of_le (not_lt.1 not) with later | rfl
    · exact lt_asymm earlier ((before_of_lt there later).lt_of_depth_eq same.symm)
    · exact lt_irrefl _ earlier

end Places

end Ingest

namespace Tables

variable {t u : Tables} {js : List Issue}

/-- No two records are taken in under one identifier. -/
theorem nodup_of_taken {records : List (Terms × Issue × Nat)}
    (taken : Ingest.Taken view refusal? (fun terms i w => w.book terms i) records t js u) :
    (js.map Issue.id).Nodup := by
  induction taken with
  | done w => exact List.nodup_nil
  | @record terms i position rest w j js v decided new later ih =>
    refine List.nodup_cons.2 ⟨fun there => ?_, ih⟩
    obtain ⟨k, hk, same⟩ := List.mem_map.1 there
    obtain ⟨_, _, _, _, x, -, earlier, -, accepted⟩ := later.admitted k hk
    have free := contains_eq_false_of_refusal accepted
    have entered : (w.book terms j).issues.get? j.id = some (.encode j) := by
      simp [book, Keyed.get?_insert]
    have held : x.issues.get? j.id = some (.encode j) :=
      (extends_of_taken earlier).rows j.id _ entered
    rw [same, Keyed.contains_eq_isSome, held] at free
    cases free

/-- The record of a place is taken in there, under its own identifier if it comes with one. -/
theorem names_at {terms : BatchTerms} {batch : List Issue}
    (taken : Ingest.Taken view refusal? (fun terms i w => w.book terms i)
      (Ingest.schedule terms batch) t js u) {place : Nat} (inside : place < js.length)
    {i : Issue} {position : Nat} (here : (Ingest.ordered batch)[place]? = some (i, position)) :
    t.Names terms batch position js[place].id ∧ (i.id ≠ "" → js[place].id = i.id) := by
  obtain ⟨before, ⟨own, record⟩, after, earlier, v, parts, rfl, first, decided, accepted⟩ :=
    taken.admitted_at inside
  obtain rfl : record = (i, position) := by
    rw [← Ingest.schedule_records terms, parts, List.map_append, List.map_cons,
      List.getElem?_append_right (by simp), List.length_map, Nat.sub_self] at here
    exact Option.some.inj here
  refine ⟨⟨before, own, i, after, _, v, _, parts,
    (Ingest.ingestAll_eq_ok_iff backend_books).2 ⟨_, first, rfl⟩,
    (Ingest.ingestRecord_eq_ok_iff backend_books).2 ⟨_, decided, accepted, rfl, rfl⟩⟩, ?_⟩
  exact View.id_of_decision decided

end Tables

open Identifier (Parts depth)

/-- A batch that is imported answers with one identifier for each of its records, which is the
record's own if it comes with one, and no two are the same. A record whose identifier lies above
that of another record comes before it, wherever they were given. Records that are equally deep come
in the order in which they were given, and those without an identifier lie at the top. -/
theorem importBatch_parents_first {t u : Tables} {terms : BatchTerms} {batch : List Issue}
    {ids : List String}
    (imported : (Tables.importBatchBy Tables.backend terms batch).run t = (.ok ids, u)) :
    ids.Nodup ∧ ∃ source : Fin ids.length ≃ Fin batch.length,
      (∀ place, t.Names terms batch (source place) ids[place] ∧
        (batch[source place].id ≠ "" → ids[place] = batch[source place].id) ∧
        ∃ stored, stored.id = ids[place] ∧ u.issues.get? ids[place] = some (.encode stored)) ∧
      (∀ (place other : Fin ids.length) (above below : Parts),
        batch[source place].id = above.text → batch[source other].id = below.text →
          above.Above below → place < other) ∧
      (∀ place other, depth batch[source place].id = depth batch[source other].id →
        (place < other ↔ source place < source other)) ∧
      depth "" = 0 := by
  obtain ⟨js, taken, rfl⟩ := Tables.importBatchBy_eq_ok_iff.1 imported
  have places : (js.map Issue.id).length = batch.length := by
    rw [List.length_map, taken.length_eq, ← List.length_map Prod.snd, Ingest.schedule_records,
      Ingest.length_ordered]
  obtain ⟨source, there⟩ := Ingest.exists_source batch
  refine ⟨Tables.nodup_of_taken taken, (finCongr places).trans source, fun place => ?_,
    fun place other above below first second lies => ?_, fun place other same => ?_, rfl⟩
  · have inside : place.val < js.length := by simpa using place.isLt
    have own : (js.map Issue.id)[place] = js[place.val].id := List.getElem_map ..
    obtain ⟨names, keeps⟩ := Tables.names_at taken inside (there (finCongr places place))
    rw [own]
    exact ⟨names, keeps, _, rfl, Tables.row_of_taken taken _ (List.getElem_mem inside)⟩
  · have less := lies.depth_lt
    rw [← first, ← second] at less
    exact Ingest.lt_of_depth_lt there less
  · exact Ingest.lt_iff_of_depth_eq there same

/-- A grandchild, a draft, an identifier without parts, a child and the parent of all. -/
theorem importBatch_parents_first_reversed :
    let t := Tables.empty.setConfig Setting.issueSpace "bd"
    let batch := [Issue.new "bd-1.1.2" "Name the tokens", Issue.new "" "Fix the parser",
      Issue.new "nowhere" "Test the parser", Issue.new "bd-1.1" "Split the parser",
      Issue.new "bd-1" "Write the parser"]
    let terms := BatchTerms.still ⟨"ann", .trusted, .epoch⟩
    let ids := ["bd-gnx", "nowhere", "bd-1", "bd-1.1", "bd-1.1.2"]
    ((Tables.importBatchBy Tables.backend terms batch).run t).1 = .ok ids ∧ ids.Nodup ∧
      ∃ source : Fin ids.length ≃ Fin batch.length,
        ∀ (place other : Fin ids.length) (above below : Parts),
          batch[source place].id = above.text → batch[source other].id = below.text →
            above.Above below → place < other := by
  intro t batch terms ids
  have imported : ((Tables.importBatchBy Tables.backend terms batch).run t).1 = .ok ids := by
    decide +kernel
  obtain ⟨distinct, source, -, order, -⟩ := importBatch_parents_first (Prod.ext imported rfl)
  exact ⟨imported, distinct, source, order⟩

end IssueIntake
