import IssueIntake.Proofs.Ingest.Phases
import IssueIntake.Proofs.Ingest.View
import IssueIntake.Proofs.Issue.Prepared
/-!
# Ingestion as a decision and an entry

`View.decision` is all that ingestion decides before it writes: whether an issue is refused, and
what the issue is then. A store that keeps books answers the three writes that follow either with
one entry of the whole issue or with a refusal of its identifier that changes nothing. For such a
store `ingest_booked` says what ingestion does: it fails by its own judgement or because the issue
is refused (`isOwn_or_refused`), and no failure of it changes anything, so it is atomic without
being made so (`ingestCall_atomically`).
-/

namespace IssueIntake

variable {σ ε δ : Type}

/-- The same fault with the store's part of it put in other words. -/
def IngestError.map (f : ε → δ) : IngestError ε → IngestError δ
  | .customStatuses cause => .customStatuses (f cause)
  | .customTypes cause => .customTypes (f cause)
  | .violation cause => .violation cause
  | .config cause => .config (f cause)
  | .noSpace => .noSpace
  | .generation (.backend cause) => .generation (.backend (f cause))
  | .generation (.exhausted space base) => .generation (.exhausted space base)
  | .wrongSpace cause => .wrongSpace cause
  | .insertion id cause => .insertion id (f cause)
  | .recording id cause => .recording id (f cause)
  | .marking id cause => .marking id (f cause)

/-- What ingestion decides before it writes: whether an issue is admitted, and the issue as it is
then. -/
abbrev Decision (ε : Type) :=
  Except (IngestError ε) Unit × Issue

/-- The same decision with the store's part of it put in other words. -/
def Decision.map (f : ε → δ) (d : Decision ε) : Decision δ :=
  (d.1.mapError (·.map f), d.2)

namespace View

/-- What ingestion decides for a store that shows this. -/
def decision (v : View) (terms : Terms) (i : Issue) : Decision ε :=
  match i.prepare v.vocabulary terms.now with
  | (.error e, j) => (.error (.violation e), j)
  | (.ok (), j) =>
    match v.assign terms j with
    | .error e => (.error e, j)
    | .ok id => (.ok (), { j with id := id })

/-- An admitted issue is the prepared one with the identifier that it is assigned. -/
theorem decision_eq_ok_iff {v : View} {terms : Terms} {i j : Issue} :
    (v.decision terms i : Decision ε) = (.ok (), j) ↔
      ∃ prepared id, i.prepare v.vocabulary terms.now = (.ok (), prepared) ∧
        (v.assign terms prepared : Except (IngestError ε) String) = .ok id ∧
        j = { prepared with id := id } := by
  unfold decision
  rcases i.prepare v.vocabulary terms.now with ⟨e | ok, prepared⟩
  · simp
  · cases h : (v.assign terms prepared : Except (IngestError ε) String) with
    | error e => simp [h]
    | ok id => simp [h, eq_comm]

/-- An admitted issue has the identifier that is assigned to it as it is given. -/
theorem assign_of_decision {v : View} {terms : Terms} {i j : Issue}
    (decided : v.decision terms i = ((.ok (), j) : Decision ε)) :
    (v.assign terms i : Except (IngestError ε) String) = .ok j.id := by
  obtain ⟨prepared, id, hp, assigned, rfl⟩ := decision_eq_ok_iff.1 decided
  obtain ⟨created, updated, closed, deleted, hash, frame⟩ := i.prepare_frame v.vocabulary terms.now
  rw [hp] at frame
  obtain rfl : prepared = _ := frame
  rw [← assigned]
  exact (v.assign_of_frame terms rfl rfl rfl rfl).symm

/-- Admission touches no field but the identifier, the timestamps and the fingerprint. -/
theorem decision_frame (v : View) (terms : Terms) (i : Issue) :
    ∃ id created updated closed deleted hash,
      (v.decision terms i : Decision ε).2 = { i with
        id := id
        contentHash := hash
        createdAt := created
        updatedAt := updated
        closedAt := closed
        deletedAt := deleted } := by
  obtain ⟨created, updated, closed, deleted, hash, hj⟩ := i.prepare_frame v.vocabulary terms.now
  unfold decision
  rcases hp : i.prepare v.vocabulary terms.now with ⟨e | ok, j⟩ <;> rw [hp] at hj <;> subst hj
  · exact ⟨_, _, _, _, _, _, rfl⟩
  · dsimp only
    cases (v.assign terms _ : Except (IngestError ε) String) <;> exact ⟨_, _, _, _, _, _, rfl⟩

/-- An issue that ingestion goes on to store is sound. -/
theorem decision_sound {v : View} {terms : Terms} {i j : Issue}
    (h : v.decision terms i = ((.ok (), j) : Decision ε)) : j.Sound := by
  obtain ⟨prepared, id, hp, -, rfl⟩ := decision_eq_ok_iff.1 h
  exact (Issue.Sound.ofPrepare hp).withId id

/-- Two stores that show the same settings and the same identifiers, and as many of them in the
issue's namespace, admit the same issues. -/
theorem decision_congr {v w : View} {terms : Terms} {i : Issue} (config : v.config = w.config)
    (holds : v.holds = w.holds)
    (count : ∀ space, v.space? i.spaceToken = some space → v.count space = w.count space) :
    (v.decision terms i : Decision ε) = w.decision terms i := by
  have vocabulary : v.vocabulary = w.vocabulary := by simp only [View.vocabulary, names, config]
  obtain ⟨_, _, _, _, _, hj⟩ := i.prepare_frame v.vocabulary terms.now
  unfold decision
  rw [← vocabulary]
  rcases hp : i.prepare v.vocabulary terms.now with ⟨e | ok, j⟩
  · rfl
  · have token : j.spaceToken = i.spaceToken := by
      rw [hp] at hj
      rw [show j = _ from hj]
    dsimp only
    rw [assign_congr config holds (by rwa [token])]

/-- The choice of an identifier fails with a fault that ingestion finds by itself. -/
theorem assign_isOwn {v : View} {terms : Terms} {i : Issue} {e : IngestError ε}
    (h : v.assign terms i = .error e) : e.IsOwn := by
  unfold assign at h
  cases hs : v.space? i.spaceToken with
  | none =>
    rw [hs] at h
    cases h
    trivial
  | some space =>
    simp only [hs, identify, generate] at h
    by_cases draft : i.id.isEmpty = true
    · rw [if_pos draft] at h
      cases hf : (v.candidates terms i space).find? (!v.holds ·) <;> rw [hf] at h <;> cases h
      trivial
    · rw [if_neg draft] at h
      by_cases strict : terms.mode = .strict
      · rw [if_pos strict] at h
        cases hc : Identifier.checkSpace i.id space <;> rw [hc] at h <;> cases h
        trivial
      · rw [if_neg strict] at h
        cases h

/-- What is decided before anything is written is ingestion's own judgement. -/
theorem decision_isOwn {v : View} {terms : Terms} {i j : Issue} {e : IngestError ε}
    (h : v.decision terms i = ((.error e, j) : Decision ε)) : e.IsOwn := by
  unfold decision at h
  rcases hp : i.prepare v.vocabulary terms.now with ⟨cause | ok, k⟩ <;> rw [hp] at h
  · cases h
    trivial
  · dsimp only at h
    cases ha : (v.assign terms k : Except (IngestError ε) String) with
    | error cause =>
      rw [ha] at h
      cases h
      exact assign_isOwn ha
    | ok id =>
      rw [ha] at h
      cases h

/-- What is decided does not depend on the words in which a store fails. -/
theorem decision_map (f : ε → δ) (v : View) (terms : Terms) (i : Issue) :
    v.decision terms i = (v.decision terms i : Decision ε).map f := by
  have assigned : ∀ j : Issue, (v.assign terms j : Except (IngestError δ) String) =
      (v.assign terms j : Except (IngestError ε) String).mapError (·.map f) := by
    intro j
    unfold assign
    rcases v.space? j.spaceToken with _ | space
    · rfl
    dsimp only [identify, generate]
    by_cases draft : j.id.isEmpty = true
    · simp only [if_pos draft]
      rcases (v.candidates terms j space).find? (!v.holds ·) with _ | id <;> rfl
    · by_cases strict : terms.mode = .strict
      · simp only [if_neg draft, if_pos strict]
        rcases Identifier.checkSpace j.id space with e | _ <;> rfl
      · simp only [if_neg draft, if_neg strict]
        rfl
  unfold decision
  rcases i.prepare v.vocabulary terms.now with ⟨e | ok, j⟩
  · rfl
  · simp only [assigned j]
    cases (v.assign terms j : Except (IngestError ε) String) <;> rfl

end View

/-- A store that keeps books: its reading calls only look, and storing an issue is one entry, or
is refused for the issue itself and changes nothing. -/
structure Backend.Books (b : Backend σ ε) (view : σ → View) (refusal? : Issue → σ → Option ε)
    (book : Terms → Issue → σ → σ) : Prop extends b.Looks view where
  store : ∀ terms i s, (Ingest.store b terms i).run s =
    match refusal? i s with
    | some e => (.error (.insertion i.id e), s)
    | none => (.ok (), book terms i s)

namespace Ingest

variable {b : Backend σ ε} {view : σ → View} {refusal? : Issue → σ → Option ε}
  {book : Terms → Issue → σ → σ}

/-- What ingestion into a store that keeps books does. -/
theorem ingest_booked (h : b.Books view refusal? book) (terms : Terms) (i : Issue) (s : σ) :
    ingest b terms i s =
      match (view s).decision terms i with
      | (.error e, j) => ⟨.error e, j, s⟩
      | (.ok (), j) =>
        match refusal? j s with
        | some e => ⟨.error (.insertion j.id e), j, s⟩
        | none => ⟨.ok (), j, book terms j s⟩ := by
  rw [ingest_eq h.toLooks, View.decision]
  rcases i.prepare (view s).vocabulary terms.now with ⟨e | ok, j⟩
  · rfl
  · dsimp only
    cases (view s).assign terms j with
    | error e => rfl
    | ok id =>
      simp only [h.store]
      cases refusal? { j with id := id } s <;> rfl

/-- Ingestion that fails has changed nothing. -/
theorem ingest_store_of_error (h : b.Books view refusal? book) {terms : Terms} {i : Issue} {s : σ}
    {e : IngestError ε} (failed : (ingest b terms i s).result = .error e) :
    (ingest b terms i s).store = s := by
  rw [ingest_booked h] at failed ⊢
  generalize (view s).decision terms i = decision at failed ⊢
  rcases decision with ⟨e | ok, j⟩
  · rfl
  · dsimp only at failed ⊢
    cases hr : refusal? j s with
    | some e => rfl
    | none =>
      rw [hr] at failed
      cases failed

/-- Ingestion that fails has found a fault by itself, or the store refuses the issue that it is to
insert; the calls after the insertion do not fail. -/
theorem isOwn_or_refused (h : b.Books view refusal? book) {terms : Terms} {i : Issue} {s : σ}
    {e : IngestError ε} (failed : (ingest b terms i s).result = .error e) :
    e.IsOwn ∨ ∃ j cause, refusal? j s = some cause ∧ e = .insertion j.id cause := by
  rw [ingest_booked h] at failed
  rcases hd : ((view s).decision terms i : Decision ε) with ⟨cause | ok, j⟩ <;> rw [hd] at failed
  · cases failed
    exact .inl (View.decision_isOwn hd)
  · dsimp only at failed
    cases hr : refusal? j s with
    | none =>
      rw [hr] at failed
      cases failed
    | some cause =>
      rw [hr] at failed
      cases failed
      exact .inr ⟨j, cause, hr, rfl⟩

/-- Ingestion that succeeds is one entry of the issue that was admitted. -/
theorem ingest_eq_ok_iff (h : b.Books view refusal? book) {terms : Terms} {i j : Issue} {s t : σ} :
    ingest b terms i s = ⟨.ok (), j, t⟩ ↔
      (view s).decision terms i = ((.ok (), j) : Decision ε) ∧
        refusal? j s = none ∧ t = book terms j s := by
  rw [ingest_booked h]
  rcases (view s).decision terms i with ⟨e | ok, k⟩
  · simp
  · dsimp only
    constructor
    · intro hi
      cases hr : refusal? k s with
      | some e => simp [hr] at hi
      | none =>
        simp only [hr, Outcome.mk.injEq, true_and] at hi
        obtain ⟨rfl, rfl⟩ := hi
        exact ⟨rfl, hr, rfl⟩
    · rintro ⟨hk, hr, rfl⟩
      cases hk
      simp [hr]

/-- The insertion of an issue fails if the issue is admitted and refused. -/
theorem ingest_eq_insertion_iff (h : b.Books view refusal? book) {terms : Terms} {i j : Issue}
    {s t : σ} {id : String} {cause : ε} :
    ingest b terms i s = ⟨.error (.insertion id cause), j, t⟩ ↔
      (view s).decision terms i = ((.ok (), j) : Decision ε) ∧
        refusal? j s = some cause ∧ id = j.id ∧ t = s := by
  rw [ingest_booked h]
  rcases hd : ((view s).decision terms i : Decision ε) with ⟨e | ok, k⟩
  · constructor
    · rintro ⟨⟩
      exact (View.decision_isOwn hd).elim
    · rintro ⟨⟨⟩, -⟩
  · dsimp only
    constructor
    · intro hi
      cases hr : refusal? k s with
      | none => simp [hr] at hi
      | some e =>
        rw [hr] at hi
        cases hi
        exact ⟨rfl, hr, rfl, rfl⟩
    · rintro ⟨⟨⟩, hr, rfl, rfl⟩
      rw [hr]

/-- The call answers with the result and the issue, and leaves the store as ingestion does. -/
theorem ingestCall_run (b : Backend σ ε) (terms : Terms) (i : Issue) (s : σ) :
    (ingestCall b terms i).run s =
      (match (ingest b terms i s).result with
        | .ok () => .ok (ingest b terms i s).issue
        | .error e => .error (e, (ingest b terms i s).issue),
      (ingest b terms i s).store) := by
  unfold Call.run ingestCall
  rcases ingest b terms i s with ⟨e | ok, j, t⟩ <;> rfl

theorem ingestCall_eq_ok_iff {terms : Terms} {i j : Issue} {s t : σ} :
    (ingestCall b terms i).run s = (.ok j, t) ↔ ingest b terms i s = ⟨.ok (), j, t⟩ := by
  rw [ingestCall_run]
  rcases ingest b terms i s with ⟨e | ok, k, u⟩ <;> simp

theorem ingestCall_eq_error_iff {terms : Terms} {i j : Issue} {s t : σ} {cause : IngestError ε} :
    (ingestCall b terms i).run s = (.error (cause, j), t) ↔
      ingest b terms i s = ⟨.error cause, j, t⟩ := by
  rw [ingestCall_run]
  rcases ingest b terms i s with ⟨e | ok, k, u⟩ <;> simp [and_assoc]

/-- Such a store needs no transaction for single issues. -/
theorem ingestCall_atomically (h : b.Books view refusal? book) (terms : Terms) (i : Issue) :
    (ingestCall b terms i).atomically = ingestCall b terms i := by
  funext s
  unfold Call.atomically ingestCall
  rcases hi : ingest b terms i s with ⟨e | ok, j, t⟩
  · have : (ingest b terms i s).store = s := ingest_store_of_error h (by rw [hi])
    rw [hi] at this
    simp_all
  · rfl

end Ingest

end IssueIntake
