import Mathlib.Logic.Relation
import IssueIntake.Proofs.Ingest.Booking
import IssueIntake.Proofs.Ingest.Failing
/-!
# What every entry keeps

A property of the states of a store that keeps books is kept by ingestion, by batches, and by
transactions whose calls may fail anywhere, as soon as it is kept by every entry of an issue that
ingestion goes on to store. `EntryKeeps` is that condition. `Backend.Step` is all that is done to a
store, and `run_keeps` says that any number of steps keep what the entries and the changes of
settings keep.
-/

namespace IssueIntake

variable {σ ε δ α : Type}

theorem Call.atomically_keeps {P : σ → Prop} {c : Call σ ε α} {s : σ} (hs : P s)
    (h : ∀ a t, c.run s = (.ok a, t) → P t) : P (c.atomically.run s).2 := by
  unfold Call.run Call.atomically at *
  rcases hc : c s with ⟨e | a, t⟩
  · exact hs
  · exact h a t hc

/-- Every entry of an issue that ingestion goes on to store keeps a property of the state. -/
def EntryKeeps (view : σ → View) (refusal? : Issue → σ → Option ε) (book : Terms → Issue → σ → σ)
    (P : σ → Prop) : Prop :=
  ∀ terms i j s, P s → (view s).decision terms i = ((.ok (), j) : Decision ε) →
    refusal? j s = none → P (book terms j s)

namespace Ingest

variable {b : Backend σ ε} {view : σ → View} {refusal? : Issue → σ → Option ε}
  {book : Terms → Issue → σ → σ} {P : σ → Prop}

theorem ingest_keeps (h : b.Books view refusal? book) (hk : EntryKeeps view refusal? book P)
    (terms : Terms) (i : Issue) {s : σ} (hs : P s) : P (ingest b terms i s).store := by
  rcases ho : ingest b terms i s with ⟨e | ok, j, t⟩
  · have same : (ingest b terms i s).store = s := ingest_store_of_error h (by rw [ho])
    rw [ho] at same
    exact (show t = s from same) ▸ hs
  · obtain ⟨decided, taken, rfl⟩ := (ingest_eq_ok_iff h).1 ho
    exact hk terms i j s hs decided taken

theorem ingestAll_keeps (h : b.Books view refusal? book) (hk : EntryKeeps view refusal? book P)
    (records : List (Terms × Issue × Nat)) {s t : σ} {ids : List String} (hs : P s)
    (ha : (ingestAll b records).run s = (.ok ids, t)) : P t := by
  induction records generalizing s ids with
  | nil =>
    cases ha
    exact hs
  | cons record rest ih =>
    obtain ⟨terms, i, position⟩ := record
    have kept := ingest_keeps h hk terms i hs
    simp only [ingestAll, Call.run_bind] at ha
    simp only [Call.run, ingestRecord] at ha ih
    rcases ho : ingest b terms i s with ⟨e | ok, j, u⟩ <;> simp only [ho] at ha kept
    · cases ha
    · rcases hr : ingestAll b rest u with ⟨e | others, w⟩ <;> simp only [hr] at ha <;> cases ha
      exact ih kept hr

/-- A transaction for one issue, on a store that may fail anywhere. -/
theorem transaction_keeps (h : b.Books view refusal? book) (hk : EntryKeeps view refusal? book P)
    {via : Backend σ δ} (hv : via.Follows b) (terms : Terms) (i : Issue) {s : σ} (hs : P s) :
    P ((ingestCall via terms i).atomically.run s).2 := by
  refine Call.atomically_keeps hs fun j t hj => ?_
  have taken := ingestCall_follows hv terms i s j t hj
  rw [ingestCall_run] at taken
  rw [← (Prod.mk.inj taken).2]
  exact ingest_keeps h hk terms i hs

/-- A transaction for a batch, on a store that may fail anywhere. -/
theorem batch_keeps (h : b.Books view refusal? book) (hk : EntryKeeps view refusal? book P)
    {via : Backend σ δ} (hv : via.Follows b) (records : List (Terms × Issue × Nat)) {s : σ}
    (hs : P s) : P ((ingestAll via records).atomically.run s).2 :=
  Call.atomically_keeps hs fun ids t hids =>
    ingestAll_keeps h hk records hs (ingestAll_follows hv records s ids t hids)

end Ingest

/-! ## Runs -/

/-- What is done to a store: a setting is changed; an issue is taken in, in a transaction or
without one; or a batch is. Any call of a transaction may fail at any time. -/
inductive Backend.Step (b : Backend σ ε) (setConfig : σ → String → String → σ) : σ → σ → Prop
  | configure (s : σ) (key value : String) : Step b setConfig s (setConfig s key value)
  | create (s : σ) {δ : Type} {via : Backend σ δ} (follows : via.Follows b) (terms : Terms)
      (i : Issue) : Step b setConfig s ((Ingest.ingestCall via terms i).atomically.run s).2
  | createBare (s : σ) (terms : Terms) (i : Issue) :
      Step b setConfig s (Ingest.ingest b terms i s).store
  | importBatch (s : σ) {δ : Type} {via : Backend σ δ} (follows : via.Follows b)
      (terms : BatchTerms) (batch : List Issue) :
      Step b setConfig s ((Ingest.ingestAll via (Ingest.schedule terms batch)).atomically.run s).2

variable {b : Backend σ ε} {view : σ → View} {refusal? : Issue → σ → Option ε}
  {book : Terms → Issue → σ → σ} {setConfig : σ → String → String → σ} {P : σ → Prop}

theorem step_keeps (h : b.Books view refusal? book) (hk : EntryKeeps view refusal? book P)
    (hc : ∀ s key value, P s → P (setConfig s key value)) {s t : σ}
    (step : b.Step setConfig s t) (hs : P s) : P t := by
  cases step with
  | configure key value => exact hc s key value hs
  | create follows terms i => exact Ingest.transaction_keeps h hk follows terms i hs
  | createBare terms i => exact Ingest.ingest_keeps h hk terms i hs
  | importBatch follows terms batch => exact Ingest.batch_keeps h hk follows _ hs

theorem run_keeps (h : b.Books view refusal? book) (hk : EntryKeeps view refusal? book P)
    (hc : ∀ s key value, P s → P (setConfig s key value)) {s t : σ}
    (run : Relation.ReflTransGen (b.Step setConfig) s t) (hs : P s) : P t := by
  induction run with
  | refl => exact hs
  | tail _ step ih => exact step_keeps h hk hc step ih

end IssueIntake
