import IssueIntake.Proofs.Ingest.Booking
import IssueIntake.Proofs.Ingest.Order
/-!
# Batches as sequences of entries

A batch that is taken in is a sequence of entries, each of the issue that was admitted in the state
that the earlier ones left (`Taken`, `ingestAll_eq_ok_iff`). A batch that fails is such a sequence
up to one record that fails in the state that the earlier ones left (`Halted`,
`halted_of_ingestAll`).
-/

namespace IssueIntake

variable {σ ε : Type}

namespace Ingest

/-! ## Entries in sequence -/

variable {b : Backend σ ε} {view : σ → View} {refusal? : Issue → σ → Option ε}
  {book : Terms → Issue → σ → σ}

/-- Records that are taken in one after the other, the issues as they are stored, and the state that
is left. -/
inductive Taken (view : σ → View) (refusal? : Issue → σ → Option ε)
    (book : Terms → Issue → σ → σ) : List (Terms × Issue × Nat) → σ → List Issue → σ → Prop
  | done (s : σ) : Taken view refusal? book [] s [] s
  | record {terms : Terms} {i : Issue} {position : Nat} {rest : List (Terms × Issue × Nat)}
    {s : σ} {j : Issue} {js : List Issue} {t : σ}
    (decided : (view s).decision terms i = ((.ok (), j) : Decision ε))
    (new : refusal? j s = none) (later : Taken view refusal? book rest (book terms j s) js t) :
    Taken view refusal? book ((terms, i, position) :: rest) s (j :: js) t

/-- Each issue that is stored was admitted from the record at its place, after the records before
that one. -/
theorem Taken.admitted_at {records : List (Terms × Issue × Nat)} {s t : σ} {js : List Issue}
    (taken : Taken view refusal? book records s js t) {place : Nat} (inside : place < js.length) :
    ∃ before record after earlier u, records = before ++ record :: after ∧
      before.length = place ∧ Taken view refusal? book before s earlier u ∧
      (view u).decision record.1 record.2.1 = ((.ok (), js[place]) : Decision ε) ∧
      refusal? js[place] u = none := by
  induction taken generalizing place with
  | done s => exact absurd inside (Nat.not_lt_zero place)
  | record decided new later ih =>
    cases place with
    | zero => exact ⟨[], _, _, [], _, rfl, rfl, .done _, decided, new⟩
    | succ place =>
      obtain ⟨before, record, after, earlier, u, rfl, here, taken, admitted⟩ :=
        ih (Nat.lt_of_succ_lt_succ inside)
      exact ⟨_ :: before, record, after, _, u, rfl, congrArg (· + 1) here,
        .record decided new taken, admitted⟩

theorem Taken.admitted {records : List (Terms × Issue × Nat)} {s t : σ} {js : List Issue}
    (taken : Taken view refusal? book records s js t) :
    ∀ j ∈ js, ∃ before record after earlier u, records = before ++ record :: after ∧
      Taken view refusal? book before s earlier u ∧
      (view u).decision record.1 record.2.1 = ((.ok (), j) : Decision ε) ∧
      refusal? j u = none := by
  intro j hj
  obtain ⟨place, inside, rfl⟩ := List.getElem_of_mem hj
  obtain ⟨before, record, after, earlier, u, parts, -, admitted⟩ := taken.admitted_at inside
  exact ⟨before, record, after, earlier, u, parts, admitted⟩

theorem Taken.length_eq {records : List (Terms × Issue × Nat)} {s t : σ} {js : List Issue}
    (taken : Taken view refusal? book records s js t) : js.length = records.length := by
  induction taken with
  | done s => rfl
  | record decided new later ih => rw [List.length_cons, List.length_cons, ih]

theorem ingestRecord_eq_ok_iff (h : b.Books view refusal? book) {terms : Terms}
    {record : Issue × Nat} {s t : σ} {id : String} :
    (ingestRecord b terms record).run s = (.ok id, t) ↔ ∃ j,
      (view s).decision terms record.1 = ((.ok (), j) : Decision ε) ∧ refusal? j s = none ∧
        id = j.id ∧ t = book terms j s := by
  have answer : (ingestRecord b terms record).run s = (.ok id, t) ↔
      ∃ j, ingest b terms record.1 s = ⟨.ok (), j, t⟩ ∧ id = j.id := by
    unfold Call.run ingestRecord
    rcases ingest b terms record.1 s with ⟨e | ok, k, u⟩
    · simp
    · simp [eq_comm, and_comm]
  simp only [answer, ingest_eq_ok_iff h, and_assoc]
  exact exists_congr fun j => and_congr_right fun _ => and_congr_right fun _ => and_comm

/-- A batch succeeds if all its records are taken in, one after the other. -/
theorem ingestAll_eq_ok_iff (h : b.Books view refusal? book)
    {records : List (Terms × Issue × Nat)} {s t : σ} {ids : List String} :
    (ingestAll b records).run s = (.ok ids, t) ↔
      ∃ js, Taken view refusal? book records s js t ∧ ids = js.map Issue.id := by
  induction records generalizing s ids with
  | nil =>
    constructor
    · intro ran
      cases ran
      exact ⟨[], .done _, rfl⟩
    · rintro ⟨_, ⟨⟩, rfl⟩
      rfl
  | cons record rest ih =>
    obtain ⟨terms, i, position⟩ := record
    simp only [ingestAll, Call.run_bind_eq_ok_iff]
    constructor
    · rintro ⟨id, u, first, others, w, later, answer⟩
      cases answer
      obtain ⟨j, decided, new, rfl, rfl⟩ := (ingestRecord_eq_ok_iff h).1 first
      obtain ⟨js, taken, rfl⟩ := ih.1 later
      exact ⟨j :: js, .record decided new taken, rfl⟩
    · rintro ⟨_, taken, rfl⟩
      cases taken with
      | record decided new later =>
        exact ⟨_, _, (ingestRecord_eq_ok_iff h).2 ⟨_, decided, new, rfl, rfl⟩, _, _,
          ih.2 ⟨_, later, rfl⟩, rfl⟩

/-! ## A batch that fails -/

/-- Records of which some are taken in, one after the other, and the next one is not: the fault of
the batch, and the state that is left. -/
inductive Halted (b : Backend σ ε) (view : σ → View) (refusal? : Issue → σ → Option ε)
    (book : Terms → Issue → σ → σ) (records : List (Terms × Issue × Nat)) (s : σ) :
    BatchError ε → σ → Prop
  | record {before after : List (Terms × Issue × Nat)} {terms : Terms} {i : Issue} {position : Nat}
    {js : List Issue} {j : Issue} {cause : IngestError ε} {t : σ}
    (parts : records = before ++ (terms, i, position) :: after)
    (taken : Taken view refusal? book before s js t)
    (failed : ingest b terms i t = ⟨.error cause, j, t⟩) :
    Halted b view refusal? book records s
      ⟨position, if j.id.isEmpty then unassigned else j.id, cause⟩ t

/-- A record before the others that is taken in. -/
theorem Halted.cons {terms : Terms} {i j : Issue} {position : Nat}
    {rest : List (Terms × Issue × Nat)} {s t : σ} {e : BatchError ε}
    (decided : (view s).decision terms i = ((.ok (), j) : Decision ε))
    (new : refusal? j s = none) (later : Halted b view refusal? book rest (book terms j s) e t) :
    Halted b view refusal? book ((terms, i, position) :: rest) s e t := by
  cases later with
  | record parts taken failed =>
    exact .record (congrArg _ parts) (.record decided new taken) failed

theorem ingestRecord_eq_error_iff {terms : Terms} {record : Issue × Nat} {s t : σ}
    {e : BatchError ε} : (ingestRecord b terms record).run s = (.error e, t) ↔ ∃ cause j,
      ingest b terms record.1 s = ⟨.error cause, j, t⟩ ∧
        e = ⟨record.2, if j.id.isEmpty then unassigned else j.id, cause⟩ := by
  unfold Call.run ingestRecord
  rcases ingest b terms record.1 s with ⟨cause | ok, k, u⟩
  · constructor
    · rintro ⟨⟩
      exact ⟨cause, k, rfl, rfl⟩
    · rintro ⟨_, _, ⟨⟩, rfl⟩
      rfl
  · simp

/-- A batch that fails stops at the first record that is not taken in. -/
theorem halted_of_ingestAll (h : b.Books view refusal? book)
    {records : List (Terms × Issue × Nat)} {s t : σ} {e : BatchError ε}
    (ran : (ingestAll b records).run s = (.error e, t)) :
    Halted b view refusal? book records s e t := by
  induction records generalizing s with
  | nil => cases ran
  | cons record rest ih =>
    obtain ⟨terms, i, position⟩ := record
    simp only [ingestAll, Call.run_bind] at ran
    rcases hr : (ingestRecord b terms (i, position)).run s with ⟨e' | id, u⟩
    · simp only [hr, Prod.mk.injEq, Except.error.injEq] at ran
      obtain ⟨rfl, rfl⟩ := ran
      obtain ⟨cause, j, failed, rfl⟩ := ingestRecord_eq_error_iff.1 hr
      have same : (ingest b terms i s).store = s := ingest_store_of_error h (by rw [failed])
      rw [failed] at same
      obtain rfl : u = s := same
      exact .record (List.nil_append _).symm (.done _) failed
    · rcases ha : (ingestAll b rest).run u with ⟨e' | others, w⟩
      · simp only [hr, ha, Prod.mk.injEq, Except.error.injEq] at ran
        obtain ⟨rfl, rfl⟩ := ran
        obtain ⟨j, decided, new, rfl, rfl⟩ := (ingestRecord_eq_ok_iff h).1 hr
        exact (ih ha).cons decided new
      · simp [hr, ha] at ran

end Ingest

end IssueIntake
