import IssueIntake.Ingest.Create
/-!
# Ingestion as a function of what a store shows

A store whose reading calls only look answers ingestion by three functions of its state: the
settings, which identifiers are taken, and how many lie in a namespace. `View` holds them, and
`View.assign` is the choice of an identifier as a function of them. For such a store
`ingest_eq` says all of ingestion up to its first write in one equation: nothing has changed, and
what is written depends on the view alone.
-/

namespace IssueIntake

/-- What a store shows to ingestion. -/
structure View where
  config : String → Option String
  holds : String → Bool
  count : String → Nat

namespace View

variable {ε : Type}

/-- The names in a setting. -/
def names (v : View) (key : String) : List String :=
  match v.config key with
  | some raw => NameList.parse raw
  | none => []

/-- The vocabulary that a store shows. -/
def vocabulary (v : View) : Vocabulary :=
  ⟨v.names Setting.statuses, v.names Setting.types⟩

/-- The namespace of a token's issues, where one is configured. -/
def space? (v : View) (token : String) : Option String :=
  match v.config Setting.issueSpace with
  | some base =>
    if (Text.trim base).isEmpty then none else some (Identifier.space base token)
  | none => none

/-- The namespace of a token is the configured one, which is not blank, or lies below it. -/
theorem space?_eq_some_iff {v : View} {token space : String} : v.space? token = some space ↔
    ∃ base, v.config Setting.issueSpace = some base ∧ Text.trim base ≠ "" ∧
      Identifier.space base token = space := by
  unfold space?
  cases v.config Setting.issueSpace with
  | none => simp
  | some base => by_cases blank : Text.trim base = "" <;> simp [blank]

/-- There is a namespace for every token if the configured one is not blank. -/
theorem space?_isSome_iff {v : View} {token : String} : (v.space? token).isSome = true ↔
    ∃ base, v.config Setting.issueSpace = some base ∧ Text.trim base ≠ "" := by
  simp only [Option.isSome_iff_exists, space?_eq_some_iff]
  constructor
  · rintro ⟨space, base, named, some, -⟩
    exact ⟨base, named, some⟩
  · rintro ⟨base, named, some⟩
    exact ⟨_, base, named, some, rfl⟩

/-- The candidates for an issue's identifier, in the order in which they are tried. -/
def candidates (v : View) (terms : Terms) (i : Issue) (space : String) : List String :=
  (Generate.attempts (Generate.keyLength (v.count space))).map
    (Generate.candidate space i terms.actor terms.now)

/-- The first candidate that is free. -/
def generate (v : View) (terms : Terms) (i : Issue) (space : String) :
    Except (Generate.Error ε) String :=
  match (v.candidates terms i space).find? (!v.holds ·) with
  | some id => .ok id
  | none => .error (.exhausted space (Generate.keyLength (v.count space)))

/-- The identifier under which an issue is stored in a namespace. -/
def identify (v : View) (terms : Terms) (i : Issue) (space : String) :
    Except (IngestError ε) String :=
  if i.id.isEmpty then (v.generate terms i space).mapError .generation
  else if terms.mode = .strict then
    match Identifier.checkSpace i.id space with
    | .ok () => .ok i.id
    | .error e => .error (.wrongSpace e)
  else .ok i.id

/-- The identifier under which an issue is stored. -/
def assign (v : View) (terms : Terms) (i : Issue) : Except (IngestError ε) String :=
  match v.space? i.spaceToken with
  | some space => v.identify terms i space
  | none => .error .noSpace

/-- An identifier that is generated is a candidate that is free, and one that comes with an issue is
kept. In strict mode it has to lie in the issue's namespace. -/
theorem assign_eq_ok {v : View} {terms : Terms} {i : Issue} {id : String}
    (h : (v.assign terms i : Except (IngestError ε) String) = .ok id) :
    ∃ space, v.space? i.spaceToken = some space ∧
      if i.id = "" then id ∈ v.candidates terms i space ∧ v.holds id = false
      else id = i.id ∧ (terms.mode = .strict → Identifier.checkSpace id space = .ok ()) := by
  unfold assign at h
  cases hs : v.space? i.spaceToken with
  | none => simp [hs] at h
  | some space =>
    refine ⟨space, rfl, ?_⟩
    simp only [hs, identify] at h
    by_cases draft : i.id = ""
    · rw [if_pos (by simpa using draft), generate] at h
      rw [if_pos draft]
      cases free : (v.candidates terms i space).find? (!v.holds ·) with
      | none =>
        rw [free] at h
        cases h
      | some found =>
        rw [free] at h
        cases h
        exact ⟨List.mem_of_find?_eq_some free, by simpa using List.find?_some free⟩
    · rw [if_neg (by simpa using draft)] at h
      rw [if_neg draft]
      by_cases strict : terms.mode = .strict
      · rw [if_pos strict] at h
        cases hc : Identifier.checkSpace i.id space with
        | error e =>
          rw [hc] at h
          cases h
        | ok =>
          rw [hc] at h
          cases h
          exact ⟨rfl, fun _ => hc⟩
      · rw [if_neg strict] at h
        cases h
        exact ⟨rfl, fun h => absurd h strict⟩

/-- An identifier that comes with an issue is kept if it passes the check of strict mode. -/
theorem assign_named {v : View} {terms : Terms} {i : Issue} {space : String} (named : i.id ≠ "")
    (spaced : v.space? i.spaceToken = some space)
    (checked : terms.mode = .strict → Identifier.checkSpace i.id space = .ok ()) :
    (v.assign terms i : Except (IngestError ε) String) = .ok i.id := by
  have given : ¬ i.id.isEmpty = true := by simpa using named
  simp only [assign, spaced, identify, if_neg given]
  by_cases strict : terms.mode = .strict
  · rw [if_pos strict, checked strict]
  · rw [if_neg strict]

/-- The choice of an identifier asks for the count of one namespace only. -/
theorem assign_congr {v w : View} {terms : Terms} {i : Issue} (config : v.config = w.config)
    (holds : v.holds = w.holds)
    (count : ∀ space, v.space? i.spaceToken = some space → v.count space = w.count space) :
    (v.assign terms i : Except (IngestError ε) String) = w.assign terms i := by
  have space : v.space? i.spaceToken = w.space? i.spaceToken := by simp only [space?, config]
  unfold assign
  rw [← space]
  cases hs : v.space? i.spaceToken with
  | none => rfl
  | some space => simp only [identify, generate, candidates, count space hs, holds]

/-- The choice of an identifier depends on few fields of the issue. -/
theorem assign_of_frame (v : View) (terms : Terms) {i j : Issue} (id : j.id = i.id)
    (title : j.title = i.title) (description : j.description = i.description)
    (token : j.spaceToken = i.spaceToken) :
    (v.assign terms j : Except (IngestError ε) String) = v.assign terms i := by
  have candidate : ∀ space, Generate.candidate space j terms.actor terms.now =
      Generate.candidate space i terms.actor terms.now := by
    intro space
    funext attempt
    simp only [Generate.candidate, Generate.material, title, description]
  simp only [assign, identify, generate, candidates, candidate, id, token]

end View

namespace Backend

variable {σ ε : Type}

/-- The reading calls of a store only look at what the store shows. -/
structure Looks (b : Backend σ ε) (view : σ → View) : Prop where
  configValue : ∀ key, b.configValue key = .look fun s => (view s).config key
  customStatuses : b.customStatuses = .look fun s => (view s).names Setting.statuses
  customTypes : b.customTypes = .look fun s => (view s).names Setting.types
  issueExists : ∀ id, b.issueExists id = .look fun s => (view s).holds id
  countTopLevel : ∀ space, b.countTopLevel space = .look fun s => (view s).count space

end Backend

namespace Ingest

variable {σ ε : Type} {b : Backend σ ε} {view : σ → View}

open Call

theorem readVocabulary_run (h : b.Looks view) (s : σ) :
    (readVocabulary b).run s = (.ok (view s).vocabulary, s) := by
  simp [readVocabulary, h.customStatuses, h.customTypes, run_bind, run_mapError, View.vocabulary]

theorem readSpace_run (h : b.Looks view) (token : String) (s : σ) :
    (readSpace b token).run s =
      (match (view s).space? token with
        | some space => .ok space
        | none => .error .noSpace, s) := by
  simp only [readSpace, h.configValue, run_bind, run_mapError, run_look, View.space?]
  rcases (view s).config Setting.issueSpace with _ | base
  · rfl
  · by_cases blank : (Text.trim base).isEmpty = true <;> simp [blank]

theorem firstFree_run (h : b.Looks view) (idOf : Nat × Nat → String)
    (attempts : List (Nat × Nat)) (s : σ) :
    (Generate.firstFree b idOf attempts).run s =
      (.ok ((attempts.map idOf).find? (!(view s).holds ·)), s) := by
  induction attempts with
  | nil => rfl
  | cons attempt attempts ih =>
    simp only [Generate.firstFree, h.issueExists, run_bind, run_look, List.map_cons,
      List.find?_cons]
    cases (view s).holds (idOf attempt) with
    | true => simpa using ih
    | false => rfl

theorem generate_run (h : b.Looks view) (terms : Terms) (i : Issue) (space : String) (s : σ) :
    (Generate.generate b space i terms.actor terms.now).run s =
      ((view s).generate terms i space, s) := by
  simp only [Generate.generate, h.countTopLevel, run_bind, run_mapError, run_look,
    firstFree_run h, View.generate, View.candidates]
  cases ((Generate.attempts (Generate.keyLength ((view s).count space))).map
    (Generate.candidate space i terms.actor terms.now)).find? (!(view s).holds ·) <;> rfl

theorem assignId_run (h : b.Looks view) (terms : Terms) (i : Issue) (s : σ) :
    (assignId b terms i).run s = ((view s).assign terms i, s) := by
  simp only [assignId, run_bind, readSpace_run h, View.assign]
  rcases (view s).space? i.spaceToken with _ | space
  · rfl
  simp only [View.identify]
  by_cases draft : i.id.isEmpty = true
  · simp only [draft, if_true, run_mapError, generate_run h]
    cases (view s).generate terms i space <;> rfl
  · by_cases strict : terms.mode = .strict
    · simp only [if_neg draft, if_pos strict]
      cases Identifier.checkSpace i.id space <;> rfl
    · simp only [if_neg draft, if_neg strict, run_pure]

/-- Ingestion into a store whose reading calls only look: up to the first write nothing changes,
and all that is done is a function of what the store shows. -/
theorem ingest_eq (h : b.Looks view) (terms : Terms) (i : Issue) (s : σ) :
    ingest b terms i s =
      match i.prepare (view s).vocabulary terms.now with
      | (.error e, j) => ⟨.error (.violation e), j, s⟩
      | (.ok (), j) =>
        match (view s).assign terms j with
        | .error e => ⟨.error e, j, s⟩
        | .ok id => ⟨((store b terms { j with id := id }).run s).1, { j with id := id },
            ((store b terms { j with id := id }).run s).2⟩ := by
  simp only [ingest, readVocabulary_run h]
  rcases i.prepare (view s).vocabulary terms.now with ⟨_ | _, j⟩
  · rfl
  · simp only [assignId_run h]
    cases (view s).assign terms j <;> rfl

end Ingest

end IssueIntake
