import IssueIntake.Proofs.Store.Namespaces
/-!
# Fresh identifiers

A generated identifier is that of the first attempt whose identifier is free, by the length of the
key and then by the counter, and generation fails only where the identifiers of all attempts are
stored (`View.generate_eq_ok_iff`, `View.generate_eq_error_iff`). What is looked up to find it is
what the insertion looks up, so a draft never collides, and issues that are taken in one after the
other, on a store that keeps what it has, get different identifiers (`storedIds_ingestEach`).
`stores_generate_fresh` says so of both stores.
-/

namespace IssueIntake

variable {σ ε : Type}

/-! ## The first attempt that is free -/

namespace Generate

/-- What attempts there are for keys of at least a length: lengths go up to eight, and there are ten
counters for each. -/
structure Offered (base : Nat) (attempt : Nat × Nat) : Prop where
  long : base ≤ attempt.1
  short : attempt.1 ≤ 8
  counted : attempt.2 < 10

theorem mem_attempts_iff_offered {base : Nat} {attempt : Nat × Nat} :
    attempt ∈ attempts base ↔ Offered base attempt := by
  rw [mem_attempts_iff]
  exact ⟨fun ⟨long, short, counted⟩ => ⟨long, short, counted⟩,
    fun ⟨long, short, counted⟩ => ⟨long, short, counted⟩⟩

/-- An attempt comes before those with longer keys, and before those with keys of the same length
and a higher counter. -/
abbrev Earlier : Nat × Nat → Nat × Nat → Prop :=
  Prod.Lex (· < ·) (· < ·)

theorem Earlier.asymm {a b : Nat × Nat} (h : Earlier a b) : ¬ Earlier b a := by
  have less := Prod.lex_def.1 h
  intro back
  have more := Prod.lex_def.1 back
  omega

/-- An attempt is the first one whose identifier is not stored. -/
structure FirstFree (held : String → Prop) (idOf : Nat × Nat → String) (base : Nat)
    (attempt : Nat × Nat) : Prop where
  offered : Offered base attempt
  free : ¬ held (idOf attempt)
  first : ∀ other, Offered base other → Earlier other attempt → held (idOf other)

/-- In a list that is in order, what is found is what fits and has nothing before it that does. -/
theorem find?_eq_some_iff_of_pairwise {α : Type} {r : α → α → Prop} {l : List α} {p : α → Bool}
    {a : α} (ordered : l.Pairwise r) (asymm : ∀ {a b}, r a b → ¬ r b a) :
    l.find? p = some a ↔ a ∈ l ∧ p a = true ∧ ∀ b ∈ l, r b a → p b = false := by
  rw [List.find?_eq_some_iff_append]
  constructor
  · rintro ⟨fits, before, after, rfl, none⟩
    refine ⟨by simp, fits, fun b there less => ?_⟩
    obtain ⟨-, later, -⟩ := List.pairwise_append.1 ordered
    rcases List.mem_append.1 there with hb | hb
    · simpa using none b hb
    · rcases List.mem_cons.1 hb with rfl | hb
      · exact absurd less (asymm less)
      · exact absurd ((List.pairwise_cons.1 later).1 b hb) (asymm less)
  · rintro ⟨there, fits, none⟩
    obtain ⟨before, after, rfl⟩ := List.append_of_mem there
    refine ⟨fits, before, after, rfl, fun b hb => ?_⟩
    have less := (List.pairwise_append.1 ordered).2.2 b hb a List.mem_cons_self
    simp [none b (List.mem_append_left _ hb) less]

/-- The first free attempt is what is found among all attempts. -/
theorem find?_attempts_eq_some_iff {holds : String → Bool} {idOf : Nat × Nat → String}
    {base : Nat} {attempt : Nat × Nat} :
    (attempts base).find? (fun a => !holds (idOf a)) = some attempt ↔
      FirstFree (holds · = true) idOf base attempt := by
  rw [find?_eq_some_iff_of_pairwise (attempts_pairwise base) Earlier.asymm]
  simp only [mem_attempts_iff_offered, Bool.not_eq_true', Bool.not_eq_false']
  constructor
  · rintro ⟨offered, free, first⟩
    exact ⟨offered, by simpa using free, first⟩
  · rintro ⟨offered, free, first⟩
    exact ⟨offered, by simpa using free, first⟩

end Generate

namespace View

variable {v : View} {terms : Terms} {i : Issue} {space : String}

/-- An identifier is generated if it is that of the first attempt that is free. -/
theorem generate_eq_ok_iff {id : String} :
    (v.generate terms i space : Except (Generate.Error ε) String) = .ok id ↔ ∃ attempt,
      Generate.FirstFree (v.holds · = true) (Generate.candidate space i terms.actor terms.now)
        (Generate.keyLength (v.count space)) attempt ∧
      Generate.candidate space i terms.actor terms.now attempt = id := by
  have found : (v.candidates terms i space).find? (!v.holds ·) =
      ((Generate.attempts (Generate.keyLength (v.count space))).find? fun a =>
        !v.holds (Generate.candidate space i terms.actor terms.now a)).map
          (Generate.candidate space i terms.actor terms.now) :=
    List.find?_map
  simp only [generate, found, ← Generate.find?_attempts_eq_some_iff]
  cases (Generate.attempts (Generate.keyLength (v.count space))).find?
    fun a => !v.holds (Generate.candidate space i terms.actor terms.now a) <;> simp

/-- No identifier is generated if those of all attempts are stored. -/
theorem generate_eq_error_iff {e : Generate.Error ε} :
    v.generate terms i space = .error e ↔
      e = .exhausted space (Generate.keyLength (v.count space)) ∧
        ∀ attempt, Generate.Offered (Generate.keyLength (v.count space)) attempt →
          v.holds (Generate.candidate space i terms.actor terms.now attempt) = true := by
  simp only [← Generate.mem_attempts_iff_offered]
  have none : (v.candidates terms i space).find? (!v.holds ·) = none ↔
      ∀ attempt ∈ Generate.attempts (Generate.keyLength (v.count space)),
        v.holds (Generate.candidate space i terms.actor terms.now attempt) = true := by
    simp [candidates]
  rw [← none, generate]
  cases (v.candidates terms i space).find? (!v.holds ·) <;> simp [eq_comm]

end View

/-! ## Issues one after the other -/

namespace Ingest

/-- What becomes of issues that are taken in one after the other, each on the store that those
before it left, also where one of those was not taken in. -/
def ingestEach (b : Backend σ ε) : List (Terms × Issue) → σ → List (Outcome σ ε)
  | [], _ => []
  | (terms, i) :: rest, s => ingest b terms i s :: ingestEach b rest (ingest b terms i s).store

/-- The identifiers of the issues that were taken in. -/
def storedIds (outcomes : List (Outcome σ ε)) : List String :=
  (outcomes.filter (·.result.isOk)).map (·.issue.id)

variable {b : Backend σ ε} {view : σ → View} {refusal? : Issue → σ → Option ε}
  {book : Terms → Issue → σ → σ} {setConfig : σ → String → String → σ}
  {alreadyExists : String → ε}

/-- An issue that is not taken in leaves the store as it was. One that is taken in has a new
identifier, which is held from then on, like all that were held before. -/
theorem ingest_holds (h : b.Indexed view refusal? book setConfig alreadyExists) (terms : Terms)
    (i : Issue) (s : σ) :
    if (ingest b terms i s).result.isOk then
      (view s).holds (ingest b terms i s).issue.id = false ∧
        ∀ id, (view (ingest b terms i s).store).holds id =
          (id == (ingest b terms i s).issue.id || (view s).holds id)
    else (ingest b terms i s).store = s := by
  rcases ran : ingest b terms i s with ⟨e | ok, j, t⟩
  · have kept : (ingest b terms i s).store = s := ingest_store_of_error h.toBooks (by rw [ran])
    rw [ran] at kept
    exact kept
  · obtain ⟨-, accepted, rfl⟩ := (ingest_eq_ok_iff h.toBooks).1 ran
    exact ⟨h.new j s accepted, h.holds_book terms j s⟩

/-- Issues that are taken in one after the other get different identifiers, none of which was
stored before. -/
theorem storedIds_ingestEach (h : b.Indexed view refusal? book setConfig alreadyExists)
    (records : List (Terms × Issue)) (s : σ) :
    (storedIds (ingestEach b records s)).Nodup ∧
      ∀ id ∈ storedIds (ingestEach b records s), (view s).holds id = false := by
  induction records generalizing s with
  | nil => exact ⟨List.nodup_nil, fun id there => absurd there List.not_mem_nil⟩
  | cons record rest ih =>
    obtain ⟨terms, i⟩ := record
    have step := ingest_holds h terms i s
    obtain ⟨distinct, fresh⟩ := ih (ingest b terms i s).store
    rw [ingestEach, storedIds, List.filter_cons]
    by_cases taken : (ingest b terms i s).result.isOk = true
    · rw [if_pos taken] at step ⊢
      obtain ⟨new, holds⟩ := step
      rw [List.map_cons, List.nodup_cons, List.forall_mem_cons]
      refine ⟨⟨fun again => ?_, distinct⟩, new, fun id there => ?_⟩
      · have held := fresh _ again
        simp [holds] at held
      · have notHeld := fresh id there
        rw [holds, Bool.or_eq_false_iff] at notHeld
        exact notHeld.2
    · rw [if_neg taken] at step ⊢
      rw [step] at distinct fresh ⊢
      exact ⟨distinct, fresh⟩

/-- A batch is issues that are taken in one after the other, if all of them are. -/
theorem ids_of_ingestAll (h : b.Indexed view refusal? book setConfig alreadyExists)
    {records : List (Terms × Issue × Nat)} {s t : σ} {ids : List String}
    (taken : (ingestAll b records).run s = (.ok ids, t)) :
    ids = storedIds (ingestEach b (records.map fun record => (record.1, record.2.1)) s) := by
  induction records generalizing s ids with
  | nil =>
    cases taken
    rfl
  | cons record rest ih =>
    obtain ⟨terms, i, position⟩ := record
    simp only [ingestAll, Call.run_bind_eq_ok_iff] at taken
    obtain ⟨id, u, first, others, w, later, answer⟩ := taken
    cases answer
    obtain ⟨j, decided, new, rfl, rfl⟩ := (ingestRecord_eq_ok_iff h.toBooks).1 first
    have ran : ingest b terms i s = ⟨.ok (), j, book terms j s⟩ :=
      (ingest_eq_ok_iff h.toBooks).2 ⟨decided, new, rfl⟩
    rw [ih later, List.map_cons, ingestEach, ran]
    rfl

/-- A draft never collides: its identifier has been looked up. -/
theorem result_ne_taken_of_draft (h : b.Indexed view refusal? book setConfig alreadyExists)
    (terms : Terms) {i : Issue} (draft : i.id = "") (s : σ) (id taken : String) :
    (ingest b terms i s).result ≠ .error (.insertion id (alreadyExists taken)) := by
  rcases ran : ingest b terms i s with ⟨result, j, t⟩
  rintro rfl
  obtain ⟨decided, refused, -⟩ := (ingest_eq_insertion_iff h.toBooks).1 ran
  have free := (View.candidate_of_decision decided draft).1
  rw [(h.taken j s taken refused).1] at free
  cases free

end Ingest

/-! ## Both stores -/

/-- How a store generates identifiers in a state, by what it holds and how it counts. -/
structure Backend.GeneratesFresh (b : Backend σ ε) (alreadyExists : String → ε) (s : σ)
    (held : String → Prop) (count : String → Nat) : Prop where
  /-- Keys have at least as many digits as the count calls for, which are three to eight. -/
  base : ∀ space, (b.countTopLevel space).run s = (.ok (count space), s) ∧
    3 ≤ Generate.keyLength (count space) ∧ Generate.keyLength (count space) ≤ 8
  /-- What is generated is the identifier of the first attempt that is free. -/
  found : ∀ space i actor now id t,
    (Generate.generate b space i actor now).run s = (.ok id, t) ↔ t = s ∧ ∃ attempt,
      Generate.FirstFree held (Generate.candidate space i actor now)
        (Generate.keyLength (count space)) attempt ∧
      Generate.candidate space i actor now attempt = id
  /-- Nothing is generated exactly if the identifiers of all attempts are stored. -/
  exhausted : ∀ space i actor now e t,
    (Generate.generate b space i actor now).run s = (.error e, t) ↔ t = s ∧
      e = .exhausted space (Generate.keyLength (count space)) ∧
      ∀ attempt, Generate.Offered (Generate.keyLength (count space)) attempt →
        held (Generate.candidate space i actor now attempt)
  /-- The identifier of an attempt is the namespace, a dash and a key of lower-case digits in base
  36, as many as the attempt says. It is accepted in the namespace, unless that is empty. -/
  wellFormed : ∀ space i actor now attempt,
    Generate.Offered (Generate.keyLength (count space)) attempt →
      let key := Base36.hashKey (Generate.material i actor now attempt.2) attempt.1
      let id := Generate.candidate space i actor now attempt
      id = space ++ "-" ++ key ∧ key.length = attempt.1 ∧
        (∀ c ∈ key.toList, c.isDigit = true ∨ c.isLower = true) ∧
        (space ≠ "" → Identifier.checkSpace id space = .ok ())
  /-- A draft does not collide with what is stored. -/
  noCollision : ∀ terms i, i.id = "" → ∀ id taken,
    (Ingest.ingest b terms i s).result ≠ .error (.insertion id (alreadyExists taken))
  /-- Issues that are taken in one after the other get different identifiers, which are new. -/
  distinct : ∀ records, (Ingest.storedIds (Ingest.ingestEach b records s)).Nodup ∧
    ∀ id ∈ Ingest.storedIds (Ingest.ingestEach b records s), ¬ held id
  /-- So do the records of a batch. -/
  distinctInBatch : ∀ records ids t, (Ingest.ingestAll b records).run s = (.ok ids, t) →
    ids.Nodup ∧ ∀ id ∈ ids, ¬ held id

/-- A store that is indexed by identifiers generates fresh ones. -/
theorem Backend.Indexed.generatesFresh {b : Backend σ ε} {view : σ → View}
    {refusal? : Issue → σ → Option ε} {book : Terms → Issue → σ → σ}
    {setConfig : σ → String → String → σ} {alreadyExists : String → ε} {held : String → Prop}
    {s : σ} (h : b.Indexed view refusal? book setConfig alreadyExists)
    (shown : ∀ id, (view s).holds id = true ↔ held id) :
    b.GeneratesFresh alreadyExists s held (view s).count := by
  obtain rfl : (fun id => (view s).holds id = true) = held := funext fun id => propext (shown id)
  have generated := fun space i actor now =>
    Ingest.generate_run h.toLooks ⟨actor, .strict, now⟩ i space s
  have distinct : ∀ records, (Ingest.storedIds (Ingest.ingestEach b records s)).Nodup ∧
      ∀ id ∈ Ingest.storedIds (Ingest.ingestEach b records s), ¬ (view s).holds id = true := by
    intro records
    obtain ⟨distinct, fresh⟩ := Ingest.storedIds_ingestEach h records s
    exact ⟨distinct, fun id there held => by simp [fresh id there] at held⟩
  exact {
    base := fun space => ⟨by rw [h.countTopLevel, Call.run_look],
      Generate.minLength_le_keyLength _, Generate.keyLength_le_maxLength _⟩
    found := by
      intro space i actor now id t
      rw [generated space i actor now, Prod.mk.injEq, View.generate_eq_ok_iff]
      exact ⟨fun ⟨found, same⟩ => ⟨same.symm, found⟩, fun ⟨same, found⟩ => ⟨found, same.symm⟩⟩
    exhausted := by
      intro space i actor now e t
      rw [generated space i actor now, Prod.mk.injEq, View.generate_eq_error_iff]
      exact ⟨fun ⟨all, same⟩ => ⟨same.symm, all⟩, fun ⟨same, all⟩ => ⟨all, same.symm⟩⟩
    wellFormed := by
      intro space i actor now attempt offered
      have there := Generate.mem_attempts_minLength (Generate.mem_attempts_iff_offered.2 offered)
      refine ⟨rfl, Base36.length_hashKey _ _, fun c hc => ?_, fun some =>
        Generate.checkSpace_candidate there space i actor now some⟩
      rw [Base36.hashKey, Base36.encode_eq, String.toList_ofList] at hc
      exact Base36.isLowerAlphanum_of_mem_digits hc
    noCollision := fun terms i draft => Ingest.result_ne_taken_of_draft h terms draft s
    distinct := distinct
    distinctInBatch := by
      intro records ids t taken
      rw [Ingest.ids_of_ingestAll h taken]
      exact distinct _ }

/-- Whatever a store holds, it generates the identifier of the first attempt that is free, which is
well-formed, and drafts that are taken in get different new identifiers, in either store. -/
theorem stores_generate_fresh :
    (∀ m : Memory,
      Memory.backend.GeneratesFresh .alreadyExists m (· ∈ m.issues.keys) m.countTopLevel) ∧
    ∀ t : Tables,
      Tables.backend.GeneratesFresh .alreadyExists t (· ∈ t.issues.keys) t.countTopLevel :=
  ⟨fun _ => Memory.backend_indexed.generatesFresh fun _ => Keyed.contains_iff_mem_keys,
    fun _ => Tables.backend_indexed.generatesFresh fun _ => Keyed.contains_iff_mem_keys⟩

/-- Three drafts of one text at one instant: one is taken in, one is refused for its priority, and
the last one gets the second candidate, since the first is taken. -/
theorem stores_generate_fresh_twins :
    let terms : Terms := ⟨"ann", .strict, .epoch⟩
    let draft := { Issue.new "" "Fix the parser" with contentHash := "0" }
    let t := Tables.empty.setConfig Setting.issueSpace "bd"
    let u := ((Tables.createIssue terms draft).run t).2
    let drafts := [(terms, draft), (terms, { draft with priority := 9 }), (terms, draft)]
    Ingest.storedIds (Ingest.ingestEach Tables.backend drafts t) = ["bd-gnx", "bd-so2"] ∧
      (Ingest.storedIds (Ingest.ingestEach Tables.backend drafts t)).Nodup ∧
      (Generate.generate Tables.backend "bd" draft "ann" .epoch).run u = (.ok "bd-so2", u) ∧
      ∃ attempt, Generate.FirstFree (· ∈ u.issues.keys)
          (Generate.candidate "bd" draft "ann" .epoch) 3 attempt ∧
        Generate.candidate "bd" draft "ann" .epoch attempt = "bd-so2" := by
  intro terms draft t u drafts
  have second : (Generate.generate Tables.backend "bd" draft "ann" .epoch).run u =
      (.ok "bd-so2", u) := by decide +kernel
  have short : Generate.keyLength (u.countTopLevel "bd") = 3 := by decide +kernel
  obtain ⟨-, inTables⟩ := stores_generate_fresh
  obtain ⟨-, first⟩ := ((inTables u).found "bd" draft "ann" .epoch "bd-so2" u).1 second
  rw [short] at first
  exact ⟨by decide +kernel, ((inTables t).distinct drafts).1, second, first⟩

end IssueIntake
