import IssueIntake.Proofs.Identifier.Split
import IssueIntake.Proofs.Ingest.Assigned
import IssueIntake.Proofs.Ingest.Batch
import IssueIntake.Proofs.Ingest.Failing
/-!
# Runs in strict mode

A run in strict mode is logged: each issue that is taken in leaves the token that it came with and
the identifier that it got. The log divides what the store holds into namespaces, one for each token
(`Divided`). Every step keeps that (`Divided.step`), since every entry does (`Divided.enter`), so
every run does (`Divided.run`). An identifier that is refused to an issue as taken is in the log
with the token of that issue (`Divided.mem_of_taken`).
-/

namespace IssueIntake

variable {σ ε δ : Type}

/-! ## The log -/

/-- What is logged of an issue that is taken in. -/
structure LogEntry where
  /-- The token that the issue came with. -/
  token : String
  /-- The identifier under which it was stored. -/
  id : String
  deriving DecidableEq, Repr

namespace LogEntry

/-- What is logged of records that are taken in under identifiers. -/
def ofRecords (records : List (Terms × Issue × Nat)) (ids : List String) : List LogEntry :=
  records.zipWith (fun record id => ⟨record.2.1.spaceToken, id⟩) ids

/-- What is logged of records by the answer to their ingestion. -/
def ofAnswer (records : List (Terms × Issue × Nat)) : Except δ (List String) → List LogEntry
  | .ok ids => ofRecords records ids
  | .error _ => []

end LogEntry

/-! ## Steps -/

/-- What is done to a store in strict mode, and what is logged of it: a setting is changed, but that
of the namespace to one value only; an issue is taken in, or a batch is. Any call of a transaction
may fail at any time. To take an issue in without a transaction is the same for a store that keeps
books (`Ingest.ingestCall_atomically`). -/
inductive Backend.StrictStep (b : Backend σ ε) (setConfig : σ → String → String → σ)
    (base : String) : σ → List LogEntry → σ → Prop
  | configure (s : σ) (key value : String) (own : key = Setting.issueSpace → value = base) :
    StrictStep b setConfig base s [] (setConfig s key value)
  | create (s : σ) {δ : Type} {via : Backend σ δ} (follows : via.Follows b) (terms : Terms)
      (strict : terms.mode = .strict) (i : Issue) :
    StrictStep b setConfig base s
      (LogEntry.ofAnswer [(terms, i, 0)]
        (((Ingest.ingestCall via terms i).atomically.run s).1.map ([·.id])))
      ((Ingest.ingestCall via terms i).atomically.run s).2
  | importBatch (s : σ) {δ : Type} {via : Backend σ δ} (follows : via.Follows b)
      (terms : BatchTerms) (strict : terms.mode = .strict) (batch : List Issue) :
    StrictStep b setConfig base s
      (LogEntry.ofAnswer (Ingest.schedule terms batch)
        ((Ingest.ingestAll via (Ingest.schedule terms batch)).atomically.run s).1)
      ((Ingest.ingestAll via (Ingest.schedule terms batch)).atomically.run s).2

/-- Strict steps one after the other, with all that is logged of them. -/
inductive Backend.StrictRun (b : Backend σ ε) (setConfig : σ → String → String → σ)
    (base : String) (s : σ) : List LogEntry → σ → Prop
  | start : StrictRun b setConfig base s [] s
  | step {log more : List LogEntry} {t u : σ} (run : StrictRun b setConfig base s log t)
      (next : b.StrictStep setConfig base t more u) : StrictRun b setConfig base s (log ++ more) u

/-- A store that keeps books by identifiers: an entry adds the identifier of its issue, which is
new, and changes no setting; a change of a setting changes nothing else. -/
structure Backend.Indexed (b : Backend σ ε) (view : σ → View) (refusal? : Issue → σ → Option ε)
    (book : Terms → Issue → σ → σ) (setConfig : σ → String → String → σ)
    (alreadyExists : String → ε) : Prop extends b.Books view refusal? book where
  config_book : ∀ terms i s, (view (book terms i s)).config = (view s).config
  holds_book : ∀ terms i s id,
    (view (book terms i s)).holds id = (id == i.id || (view s).holds id)
  config_set : ∀ s key value k,
    (view (setConfig s key value)).config k = if k = key then some value else (view s).config k
  holds_set : ∀ s key value, (view (setConfig s key value)).holds = (view s).holds
  new : ∀ i s, refusal? i s = none → (view s).holds i.id = false
  taken : ∀ i s id, refusal? i s = some (alreadyExists id) →
    (view s).holds i.id = true ∧ id = i.id

variable {b : Backend σ ε} {view : σ → View} {refusal? : Issue → σ → Option ε}
  {book : Terms → Issue → σ → σ} {setConfig : σ → String → String → σ}
  {alreadyExists : String → ε} {base : String} {log : List LogEntry} {s t : σ}

/-- All that a strict step can do: change a setting, take records in, or nothing. -/
theorem strictStep_cases (h : b.Books view refusal? book)
    (step : b.StrictStep setConfig base s log t) :
    (∃ key value, (key = Setting.issueSpace → value = base) ∧ log = [] ∧
      t = setConfig s key value) ∨
    (log = [] ∧ t = s) ∨
    ∃ records js, (∀ record ∈ records, record.1.mode = .strict) ∧
      Ingest.Taken view refusal? book records s js t ∧
      log = LogEntry.ofRecords records (js.map Issue.id) := by
  cases step with
  | configure key value own => exact .inl ⟨key, value, own, rfl, rfl⟩
  | @create δ via follows terms strict i =>
    rcases ran : (Ingest.ingestCall via terms i).atomically.run s with ⟨e | j, u⟩
    · exact .inr (.inl ⟨rfl, (Call.atomically_eq_error_iff.1 ran).2⟩)
    · have answered := Ingest.ingestCall_follows follows terms i s j u
        (Call.atomically_eq_ok_iff.1 ran)
      obtain ⟨decided, new, rfl⟩ :=
        (Ingest.ingest_eq_ok_iff h).1 (Ingest.ingestCall_eq_ok_iff.1 answered)
      exact .inr (.inr ⟨[(terms, i, 0)], [j], by simpa using strict,
        .record decided new (.done _), rfl⟩)
  | @importBatch δ via follows terms strict batch =>
    rcases ran : (Ingest.ingestAll via (Ingest.schedule terms batch)).atomically.run s with
      ⟨e | ids, u⟩
    · exact .inr (.inl ⟨rfl, (Call.atomically_eq_error_iff.1 ran).2⟩)
    · have answered := Ingest.ingestAll_follows follows _ s ids u (Call.atomically_eq_ok_iff.1 ran)
      obtain ⟨js, taken, rfl⟩ := (Ingest.ingestAll_eq_ok_iff h).1 answered
      exact .inr (.inr ⟨_, js, fun record hr => (Ingest.mode_of_mem_schedule hr).trans strict,
        taken, rfl⟩)

/-! ## Namespaces -/

/-- A log divides what a store shows into namespaces below one base: what is held is what is logged,
every identifier once, and splits into the namespace of its token and a key. -/
structure Divided (base : String) (log : List LogEntry) (v : View) : Prop where
  configured : ∀ value, v.config Setting.issueSpace = some value → value = base
  holds : ∀ id, v.holds id = true ↔ ∃ entry ∈ log, entry.id = id
  distinct : (log.map LogEntry.id).Nodup
  split : ∀ entry ∈ log, ∃ key,
    Identifier.split entry.id = some (Identifier.space base entry.token, key)

namespace Divided

/-- Identifiers of different tokens are different. -/
theorem token_eq {v : View} (kept : Divided base log v) {entry : LogEntry} (there : entry ∈ log)
    {token key : String}
    (split : Identifier.split entry.id = some (Identifier.space base token, key)) :
    entry.token = token := by
  obtain ⟨key', own⟩ := kept.split entry there
  rw [own] at split
  exact Identifier.space_injective base (Prod.mk.inj (Option.some.inj split)).1

/-- An identifier that is taken when an issue is to be stored under it was logged with the token of
that issue. -/
theorem mem_of_taken {v : View} (kept : Divided base log v) {terms : Terms} {i j : Issue}
    (strict : terms.mode = .strict) (decided : v.decision terms i = ((.ok (), j) : Decision ε))
    (taken : v.holds j.id = true) : ⟨i.spaceToken, j.id⟩ ∈ log := by
  obtain ⟨⟨token, id⟩, there, rfl⟩ := (kept.holds j.id).1 taken
  obtain ⟨base', key, configured, split⟩ := View.split_of_decision strict decided
  obtain rfl := kept.configured base' configured
  obtain rfl : token = i.spaceToken := kept.token_eq there split
  exact there

/-- The entry of an issue that was admitted in strict mode keeps the division. -/
theorem enter (h : b.Indexed view refusal? book setConfig alreadyExists)
    (kept : Divided base log (view s)) {terms : Terms} {i j : Issue}
    (strict : terms.mode = .strict)
    (decided : (view s).decision terms i = ((.ok (), j) : Decision ε))
    (accepted : refusal? j s = none) :
    Divided base (log ++ [⟨i.spaceToken, j.id⟩]) (view (book terms j s)) where
  configured value hv := kept.configured value (by rwa [h.config_book] at hv)
  holds id := by
    rw [h.holds_book, Bool.or_eq_true, beq_iff_eq, kept.holds]
    simp only [List.mem_append, List.mem_singleton, or_and_right, exists_or, exists_eq_left]
    rw [or_comm, eq_comm]
  distinct := by
    have new := h.new j s accepted
    rw [List.map_append, List.map_singleton, List.nodup_append]
    refine ⟨kept.distinct, List.pairwise_singleton _ _, fun id old id' new' same => ?_⟩
    obtain ⟨entry, there, rfl⟩ := List.mem_map.1 old
    have held := (kept.holds entry.id).2 ⟨entry, there, rfl⟩
    rw [same, List.mem_singleton.1 new', new] at held
    cases held
  split := by
    intro entry there
    rcases List.mem_append.1 there with old | new
    · exact kept.split entry old
    · obtain rfl := List.mem_singleton.1 new
      obtain ⟨base', key, configured, split⟩ := View.split_of_decision strict decided
      obtain rfl := kept.configured base' configured
      exact ⟨key, split⟩

/-- Records that are taken in in strict mode keep the division. -/
theorem taken (h : b.Indexed view refusal? book setConfig alreadyExists)
    (kept : Divided base log (view s)) {records : List (Terms × Issue × Nat)} {js : List Issue}
    (strict : ∀ record ∈ records, record.1.mode = .strict)
    (taken : Ingest.Taken view refusal? book records s js t) :
    Divided base (log ++ LogEntry.ofRecords records (js.map Issue.id)) (view t) := by
  induction taken generalizing log with
  | done s => simpa [LogEntry.ofRecords] using kept
  | record decided accepted later ih =>
    obtain ⟨own, others⟩ := List.forall_mem_cons.1 strict
    have entered := ih (kept.enter h own decided accepted) others
    rwa [List.append_assoc] at entered

theorem configure (h : b.Indexed view refusal? book setConfig alreadyExists)
    (kept : Divided base log (view s)) {key value : String}
    (own : key = Setting.issueSpace → value = base) :
    Divided base log (view (setConfig s key value)) where
  configured found hf := by
    rw [h.config_set] at hf
    split at hf
    · next same =>
      rw [← Option.some.inj hf]
      exact own same.symm
    · exact kept.configured found hf
  holds := by
    rw [h.holds_set]
    exact kept.holds
  distinct := kept.distinct
  split := kept.split

/-- A strict step keeps the division. -/
theorem step (h : b.Indexed view refusal? book setConfig alreadyExists) {more : List LogEntry}
    (kept : Divided base log (view s)) (step : b.StrictStep setConfig base s more t) :
    Divided base (log ++ more) (view t) := by
  obtain ⟨key, value, own, rfl, rfl⟩ | ⟨rfl, rfl⟩ | ⟨records, js, strict, taken, rfl⟩ :=
    strictStep_cases h.toBooks step
  · rw [List.append_nil]
    exact kept.configure h own
  · rwa [List.append_nil]
  · exact kept.taken h strict taken

/-- A strict run from a store that holds nothing and has no namespace divides it. -/
theorem run (h : b.Indexed view refusal? book setConfig alreadyExists)
    (nothing : ∀ id, (view s).holds id = false) (unset : (view s).config Setting.issueSpace = none)
    (run : b.StrictRun setConfig base s log t) : Divided base log (view t) := by
  induction run with
  | start =>
    exact ⟨fun _ hv => by simp [unset] at hv, fun id => by simp [nothing], List.nodup_nil,
      fun _ there => absurd there List.not_mem_nil⟩
  | step run next ih => exact ih.step h next

/-! ## Collisions -/

/-- An identifier that the store refuses as taken when an issue is taken in was logged with the
token of that issue. -/
theorem mem_of_create (h : b.Indexed view refusal? book setConfig alreadyExists)
    (kept : Divided base log (view s)) {terms : Terms} {i j : Issue} {id taken : String}
    (strict : terms.mode = .strict)
    (failed : (Ingest.ingestCall b terms i).atomically.run s =
      (.error (.insertion id (alreadyExists taken), j), t)) : ⟨i.spaceToken, id⟩ ∈ log := by
  rw [Ingest.ingestCall_atomically h.toBooks, Ingest.ingestCall_eq_error_iff,
    Ingest.ingest_eq_insertion_iff h.toBooks] at failed
  obtain ⟨decided, refused, rfl, -⟩ := failed
  exact kept.mem_of_taken strict decided (h.taken j s taken refused).1

/-- An identifier that the store refuses as taken when a batch is taken in was logged with the token
of its record, or is one that a record of the batch with that token had been given before. -/
theorem mem_of_importBatch (h : b.Indexed view refusal? book setConfig alreadyExists)
    (kept : Divided base log (view s)) {terms : BatchTerms} {batch : List Issue}
    {e : BatchError ε} {id taken : String} (strict : terms.mode = .strict)
    (failed : (Ingest.ingestAll b (Ingest.schedule terms batch)).atomically.run s = (.error e, t))
    (cause : e.cause = .insertion id (alreadyExists taken)) :
    ∃ before own i after ids u,
      Ingest.schedule terms batch = before ++ (own, i, e.position) :: after ∧
        (Ingest.ingestAll b before).run s = (.ok ids, u) ∧
        ⟨i.spaceToken, id⟩ ∈ log ++ LogEntry.ofRecords before ids := by
  obtain ⟨⟨w, halt⟩, -⟩ := Call.atomically_eq_error_iff.1 failed
  cases Ingest.halted_of_ingestAll h.toBooks halt with
  | @record before after own i position js j _ _ parts stored refused =>
    obtain rfl := cause
    obtain ⟨decided, refusal, rfl, -⟩ := (Ingest.ingest_eq_insertion_iff h.toBooks).1 refused
    have modes : ∀ record ∈ before ++ (own, i, position) :: after, record.1.mode = .strict := by
      rw [← parts]
      exact fun record hr => (Ingest.mode_of_mem_schedule hr).trans strict
    have divided := kept.taken h (fun record hr => modes record (List.mem_append_left _ hr)) stored
    exact ⟨before, own, i, after, _, w, parts,
      (Ingest.ingestAll_eq_ok_iff h.toBooks).2 ⟨js, stored, rfl⟩,
      divided.mem_of_taken (modes _ (List.mem_append_right _ List.mem_cons_self)) decided
        (h.taken j w taken refusal).1⟩

end Divided

end IssueIntake
