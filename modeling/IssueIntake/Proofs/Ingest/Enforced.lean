import IssueIntake.Proofs.Ingest.Kept
import IssueIntake.Proofs.Ingest.StrictRun
import IssueIntake.Proofs.Issue.Vocabulary
import IssueIntake.Proofs.Text.NameList
/-!
# The lists that were named last are enforced

A store goes by the texts from which its lists of custom names were set last, whatever was done to
it before and since (`Backend.LastNamed`, `LastNamed.vocabulary`). An issue that nothing but a name
can keep out is then taken in if the name is listed, and else is refused for it
(`LastNamed.enforces`).
-/

namespace IssueIntake

variable {σ ε : Type}

/-! ## Judgements -/

/-- A store that shows this takes an issue in where it goes by another vocabulary. -/
def View.Admits (v : View) (refusal? : Issue → Option ε) (other : Vocabulary) (terms : Terms)
    (i : Issue) : Prop :=
  ∃ prepared id, i.prepare other terms.now = (.ok (), prepared) ∧
    (v.assign terms prepared : Except (IngestError ε) String) = .ok id ∧
    refusal? { prepared with id := id } = none

/-- A rule decides whether an issue is taken in; if it is broken, nothing changes. -/
structure Call.DecidedBy (c : Call σ (IngestError ε × Issue) Issue) (s : σ) (met : Prop)
    (violation : Issue.Violation) : Prop where
  accepts : (∃ j t, c.run s = (.ok j, t)) ↔ met
  refuses : (∃ j t, c.run s = (.error (.violation violation, j), t)) ↔ ¬ met
  unchanged : ¬ met → (c.run s).2 = s

/-- In a state of a store an issue that nothing but the name of its status or its type can keep out
is taken in if the name is listed in a vocabulary, and else is refused for that name. -/
structure Backend.Enforces (b : Backend σ ε) (view : σ → View)
    (refusal? : Issue → σ → Option ε) (v : Vocabulary) (s : σ) : Prop where
  status : ∀ (terms : Terms) (i : Issue) (name : String), i.status = .ofName name →
    (view s).Admits (refusal? · s) (v.withStatus name) terms i →
      (Ingest.ingestCall b terms i).atomically.DecidedBy s (name ∈ v.statusNames)
        (.unknownStatus name)
  type : ∀ (terms : Terms) (i : Issue) (name : String), i.issueType = .ofName name →
    (view s).Admits (refusal? · s) (v.withType name) terms i →
      (Ingest.ingestCall b terms i).atomically.DecidedBy s (name ∈ v.typeNames)
        (.unknownType name)

/-! ## What has been done to a store -/

/-- The lists of custom names of a store were last set from two texts, whatever else has been done
to it: lists were set before, other settings were changed, and issues were taken in. -/
inductive Backend.LastNamed (b : Backend σ ε) (setConfig : σ → String → String → σ) :
    String → String → σ → Prop
  | named (s : σ) (statuses types : String) :
    LastNamed b setConfig statuses types
      (setConfig (setConfig s Setting.statuses (NameList.format (NameList.parse statuses)))
        Setting.types (NameList.format (NameList.parse types)))
  | statuses {old types : String} {s : σ} (before : LastNamed b setConfig old types s)
      (statuses : String) :
    LastNamed b setConfig statuses types
      (setConfig s Setting.statuses (NameList.format (NameList.parse statuses)))
  | types {statuses old : String} {s : σ} (before : LastNamed b setConfig statuses old s)
      (types : String) :
    LastNamed b setConfig statuses types
      (setConfig s Setting.types (NameList.format (NameList.parse types)))
  | configure {statuses types : String} {s : σ} (before : LastNamed b setConfig statuses types s)
      (key value : String) (other : key ≠ Setting.statuses ∧ key ≠ Setting.types) :
    LastNamed b setConfig statuses types (setConfig s key value)
  | create {statuses types : String} {s : σ} (before : LastNamed b setConfig statuses types s)
      {δ : Type} {via : Backend σ δ} (follows : via.Follows b) (terms : Terms) (i : Issue) :
    LastNamed b setConfig statuses types ((Ingest.ingestCall via terms i).atomically.run s).2
  | createBare {statuses types : String} {s : σ} (before : LastNamed b setConfig statuses types s)
      (terms : Terms) (i : Issue) :
    LastNamed b setConfig statuses types (Ingest.ingest b terms i s).store
  | importBatch {statuses types : String} {s : σ} (before : LastNamed b setConfig statuses types s)
      {δ : Type} {via : Backend σ δ} (follows : via.Follows b) (terms : BatchTerms)
      (batch : List Issue) :
    LastNamed b setConfig statuses types
      ((Ingest.ingestAll via (Ingest.schedule terms batch)).atomically.run s).2

section Enforcement

variable {b : Backend σ ε} {view : σ → View} {refusal? : Issue → σ → Option ε}
  {book : Terms → Issue → σ → σ} {setConfig : σ → String → String → σ}
  {alreadyExists : String → ε} {statuses types : String} {s : σ} {terms : Terms} {i : Issue}

/-- What a store shows of a list that was just set. -/
theorem names_set (h : b.Indexed view refusal? book setConfig alreadyExists) (s : σ)
    (key raw k : String) : (view (setConfig s key (NameList.format (NameList.parse raw)))).names k =
      if k = key then NameList.parse raw else (view s).names k := by
  unfold View.names
  rw [h.config_set]
  by_cases same : k = key
  · simp only [if_pos same, NameList.parse_format_parse]
  · simp only [if_neg same]

/-- A store goes by the lists that were named last. -/
theorem Backend.LastNamed.vocabulary (h : b.Indexed view refusal? book setConfig alreadyExists)
    (named : b.LastNamed setConfig statuses types s) :
    (view s).vocabulary = ⟨NameList.parse statuses, NameList.parse types⟩ := by
  have entry (v : Vocabulary) : EntryKeeps view refusal? book fun s => (view s).vocabulary = v := by
    intro terms i j s kept _ _
    simpa only [View.vocabulary, View.names, h.config_book] using kept
  have other : Setting.statuses ≠ Setting.types := by decide
  induction named with
  | named s statuses types =>
    simp only [View.vocabulary, names_set h, if_neg other, if_true]
  | statuses before statuses ih =>
    have kept := congrArg Vocabulary.types ih
    simp only [View.vocabulary, names_set h, if_neg other.symm, if_true] at kept ⊢
    rw [kept]
  | types before types ih =>
    have kept := congrArg Vocabulary.statuses ih
    simp only [View.vocabulary, names_set h, if_neg other, if_true] at kept ⊢
    rw [kept]
  | configure before key value different ih =>
    rw [← ih]
    simp only [View.vocabulary, View.names, h.config_set, if_neg different.1.symm,
      if_neg different.2.symm]
  | create before follows terms i ih =>
    exact Ingest.transaction_keeps h.toBooks (entry _) follows terms i ih
  | createBare before terms i ih => exact Ingest.ingest_keeps h.toBooks (entry _) terms i ih
  | importBatch before follows terms batch ih =>
    exact Ingest.batch_keeps h.toBooks (entry _) follows _ ih

/-- Where a rule decides the preparation of an issue and nothing else keeps it out, the rule decides
whether it is taken in. -/
theorem decidedBy_of_prepare (h : b.Books view refusal? book) {known : Bool}
    {violation : Issue.Violation} {prepared broken : Issue} {id : String}
    (prepares : i.prepare (view s).vocabulary terms.now =
      if known then (.ok (), prepared) else (.error violation, broken))
    (assigned : ((view s).assign terms prepared : Except (IngestError ε) String) = .ok id)
    (new : refusal? { prepared with id := id } s = none) :
    (Ingest.ingestCall b terms i).atomically.DecidedBy s (known = true) violation := by
  rw [Ingest.ingestCall_atomically h]
  cases known with
  | true =>
    have decided : (view s).decision terms i =
        ((.ok (), { prepared with id := id }) : Decision ε) :=
      View.decision_eq_ok_iff.2 ⟨prepared, id, prepares, assigned, rfl⟩
    have ran := Ingest.ingestCall_eq_ok_iff.2 ((Ingest.ingest_eq_ok_iff h).2 ⟨decided, new, rfl⟩)
    constructor <;> simp [ran]
  | false =>
    have decided : (view s).decision terms i = ((.error (.violation violation), broken) :
        Decision ε) := by
      simp [View.decision, prepares]
    have failed : Ingest.ingest b terms i s = ⟨.error (.violation violation), broken, s⟩ := by
      rw [Ingest.ingest_booked h, decided]
    have ran := Ingest.ingestCall_eq_error_iff.2 failed
    constructor <;> simp [ran]

/-- A store that keeps books enforces the vocabulary that it shows. -/
theorem Backend.Books.enforces (h : b.Books view refusal? book) (s : σ) :
    b.Enforces view refusal? (view s).vocabulary s where
  status terms i name given admitted := by
    obtain ⟨prepared, id, ready, assigned, new⟩ := admitted
    rw [← Vocabulary.allowsStatus_ofName]
    exact decidedBy_of_prepare h (Issue.prepare_of_status given ready) assigned new
  type terms i name given admitted := by
    obtain ⟨prepared, id, ready, assigned, new⟩ := admitted
    rw [← Vocabulary.allowsType_ofName]
    exact decidedBy_of_prepare h (Issue.prepare_of_type given ready) assigned new

/-- The lists that were named last are enforced. -/
theorem Backend.LastNamed.enforces (h : b.Indexed view refusal? book setConfig alreadyExists)
    (named : b.LastNamed setConfig statuses types s) :
    b.Enforces view refusal? ⟨NameList.parse statuses, NameList.parse types⟩ s := by
  rw [← named.vocabulary h]
  exact h.toBooks.enforces s

end Enforcement

end IssueIntake
