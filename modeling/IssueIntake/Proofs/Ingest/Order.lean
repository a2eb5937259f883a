import IssueIntake.Store.Batch
/-!
# The order in which records are taken in

The records of a batch are those that it is given, in another order, and none is lost or made twice
(`ordered_perm`, `schedule_issues`). They are sorted by the depth of their identifiers, and among
records of the same depth by their positions (`ordered_pairwise`), so their order is the stable sort
by depth (`ordered_eq_mergeSort`).
-/

namespace IssueIntake.Ingest

/-! ## Nothing is lost -/

theorem placeRecord_perm (record : Issue × Nat) (records : List (Issue × Nat)) :
    (placeRecord record records).Perm (record :: records) := by
  induction records with
  | nil => exact .refl _
  | cons other rest ih =>
    unfold placeRecord
    split
    · exact .refl _
    · exact (ih.cons other).trans (.swap record other rest)

theorem foldr_placeRecord_perm (records : List (Issue × Nat)) :
    (records.foldr placeRecord []).Perm records := by
  induction records with
  | nil => exact .refl _
  | cons record records ih => exact (placeRecord_perm record _).trans (ih.cons record)

theorem ordered_perm (batch : List Issue) : (ordered batch).Perm batch.zipIdx :=
  foldr_placeRecord_perm batch.zipIdx

/-- The records of a batch are its issues with their positions. -/
theorem mem_ordered_iff {batch : List Issue} {i : Issue} {position : Nat} :
    (i, position) ∈ ordered batch ↔ batch[position]? = some i := by
  rw [(ordered_perm batch).mem_iff, List.mem_zipIdx_iff_getElem?]

/-- The records of a schedule are those of the batch in their order. -/
theorem schedule_records (terms : BatchTerms) (batch : List Issue) :
    (schedule terms batch).map Prod.snd = ordered batch :=
  List.ext_getElem (by simp [schedule]) (by simp [schedule])

/-- The issues that are taken in are those of the batch, each as often as it is there. -/
theorem schedule_issues (terms : BatchTerms) (batch : List Issue) :
    ((schedule terms batch).map fun record => record.2.1).Perm batch := by
  have issues := (ordered_perm batch).map Prod.fst
  rw [← schedule_records terms, List.zipIdx_map_fst, List.map_map] at issues
  exact issues

theorem getElem?_of_mem_schedule {terms : BatchTerms} {batch : List Issue}
    {record : Terms × Issue × Nat} (h : record ∈ schedule terms batch) :
    batch[record.2.2]? = some record.2.1 := by
  rw [← mem_ordered_iff, ← schedule_records terms]
  exact List.mem_map_of_mem h

theorem exists_place_of_mem_schedule {terms : BatchTerms} {batch : List Issue}
    {record : Terms × Issue × Nat} (h : record ∈ schedule terms batch) :
    ∃ place, record.1 = terms.atPlace place := by
  obtain ⟨place, _, rfl⟩ := List.mem_mapIdx.1 h
  exact ⟨place, rfl⟩

theorem mode_of_mem_schedule {terms : BatchTerms} {batch : List Issue}
    {record : Terms × Issue × Nat} (h : record ∈ schedule terms batch) :
    record.1.mode = terms.mode := by
  obtain ⟨place, own⟩ := exists_place_of_mem_schedule h
  rw [own, BatchTerms.atPlace]

/-! ## Sorted by depth, then by position -/

/-- A record is taken in before another one: it is less deep, or as deep and given earlier. -/
def Before (a b : Issue × Nat) : Prop :=
  Identifier.depth a.1.id < Identifier.depth b.1.id ∨
    Identifier.depth a.1.id = Identifier.depth b.1.id ∧ a.2 < b.2

/-- A record that is given before all others is put in its place among them. -/
theorem placeRecord_pairwise {record : Issue × Nat} {records : List (Issue × Nat)}
    (sorted : records.Pairwise Before) (first : ∀ other ∈ records, record.2 < other.2) :
    (placeRecord record records).Pairwise Before := by
  induction records with
  | nil => exact List.pairwise_singleton _ _
  | cons other rest ih =>
    obtain ⟨otherFirst, sortedRest⟩ := List.pairwise_cons.1 sorted
    obtain ⟨earlier, earlierRest⟩ := List.forall_mem_cons.1 first
    unfold placeRecord
    split
    · next shallow =>
      refine List.pairwise_cons.2 ⟨List.forall_mem_cons.2 ⟨?_, fun later hl => ?_⟩, sorted⟩
      · exact (Nat.lt_or_eq_of_le shallow).imp_right fun same => ⟨same, earlier⟩
      · have deeper := otherFirst later hl
        have given := earlierRest later hl
        unfold Before at deeper ⊢
        omega
    · next deep =>
      refine List.pairwise_cons.2 ⟨fun later hl => ?_, ih sortedRest earlierRest⟩
      rcases List.mem_cons.1 ((placeRecord_perm record rest).mem_iff.1 hl) with rfl | hl
      · exact .inl (Nat.lt_of_not_le deep)
      · exact otherFirst later hl

theorem foldr_placeRecord_pairwise {records : List (Issue × Nat)}
    (positions : records.Pairwise fun a b => a.2 < b.2) :
    (records.foldr placeRecord []).Pairwise Before := by
  induction records with
  | nil => exact .nil
  | cons record records ih =>
    obtain ⟨first, later⟩ := List.pairwise_cons.1 positions
    exact placeRecord_pairwise (ih later) fun other ho =>
      first other ((foldr_placeRecord_perm records).mem_iff.1 ho)

theorem ordered_pairwise (batch : List Issue) : (ordered batch).Pairwise Before := by
  refine foldr_placeRecord_pairwise ?_
  rw [← List.pairwise_map (f := Prod.snd) (R := (· < ·)), List.zipIdx_map_snd]
  exact List.pairwise_lt_range'

/-- The records that are taken in before a record come before it in the order. -/
theorem before_of_schedule {terms : BatchTerms} {batch : List Issue}
    {before after : List (Terms × Issue × Nat)} {record : Terms × Issue × Nat}
    (parts : schedule terms batch = before ++ record :: after) :
    ∀ earlier ∈ before, Before earlier.2 record.2 := by
  intro earlier he
  have sorted := ordered_pairwise batch
  rw [← schedule_records terms, parts, List.map_append, List.map_cons] at sorted
  exact (List.pairwise_append.1 sorted).2.2 _ (List.mem_map_of_mem he) _ List.mem_cons_self

/-- A record is put behind those that are less deep and before those that are as deep or deeper. -/
theorem placeRecord_append {record : Issue × Nat} {before after : List (Issue × Nat)}
    (less : ∀ other ∈ before, ¬ Identifier.depth record.1.id ≤ Identifier.depth other.1.id)
    (more : ∀ other ∈ after, Identifier.depth record.1.id ≤ Identifier.depth other.1.id) :
    placeRecord record (before ++ after) = before ++ record :: after := by
  induction before with
  | nil =>
    cases after with
    | nil => rfl
    | cons other after => exact if_pos (List.forall_mem_cons.1 more).1
  | cons other before ih =>
    obtain ⟨here, less⟩ := List.forall_mem_cons.1 less
    rw [List.cons_append, placeRecord, if_neg here, ih less]
    rfl

/-- Whether a record is at most as deep as another one. -/
def noDeeper (a b : Issue × Nat) : Bool :=
  Identifier.depth a.1.id ≤ Identifier.depth b.1.id

theorem noDeeper_trans (a b c : Issue × Nat) (hab : noDeeper a b = true)
    (hbc : noDeeper b c = true) : noDeeper a c = true := by
  simp only [noDeeper, decide_eq_true_eq] at *
  exact Nat.le_trans hab hbc

theorem noDeeper_total (a b : Issue × Nat) : (noDeeper a b || noDeeper b a) = true := by
  simp only [noDeeper, Bool.or_eq_true, decide_eq_true_eq]
  exact Nat.le_total _ _

/-- The order is the stable sort by depth. -/
theorem ordered_eq_mergeSort (batch : List Issue) :
    ordered batch = batch.zipIdx.mergeSort noDeeper := by
  unfold ordered
  induction batch.zipIdx with
  | nil => rw [List.mergeSort_nil, List.foldr_nil]
  | cons record records ih =>
    obtain ⟨before, after, whole, parts, less⟩ :=
      List.mergeSort_cons noDeeper_trans noDeeper_total record records
    have sorted := List.pairwise_mergeSort noDeeper_trans noDeeper_total (record :: records)
    rw [whole] at sorted
    have more := (List.pairwise_cons.1 (List.pairwise_append.1 sorted).2.1).1
    rw [List.foldr_cons, ih, parts, whole]
    refine placeRecord_append (fun other ho => ?_) fun other ho => ?_
    · simpa [noDeeper] using less other ho
    · simpa [noDeeper] using more other ho

end IssueIntake.Ingest
