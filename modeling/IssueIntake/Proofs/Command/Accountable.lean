import IssueIntake.Command.Run
import IssueIntake.Proofs.Command.Report
import IssueIntake.Proofs.Store.Additions
import IssueIntake.Proofs.Store.Opening
/-!
# What a command does to its database

Whatever statements fail, a command that fails leaves all tables of its database as they were, and
so does one that only shows something. There is one exception: lists of names are replaced one after
the other, outside of any transaction, and those that have been replaced stay so when a later
statement fails (`replaceVocabulary_run`). A command that takes issues in and succeeds prints the
identifiers under which the tables hold more than before. `run_accountable` says so of every command
line and every tree of files.
-/

namespace IssueIntake

/-! ## Calls that change nothing when they fail -/

namespace Call

variable {σ ε α β : Type}

/-- A call changes nothing when it fails. -/
def AllOrNothing (c : Call σ ε α) : Prop :=
  ∀ s e t, c.run s = (.error e, t) → t = s

namespace AllOrNothing

theorem atomically (c : Call σ ε α) : AllOrNothing c.atomically :=
  fun _ _ _ ran => (atomically_eq_error_iff.1 ran).2

/-- What follows a call that changes something must not fail. -/
theorem andAnswer {c : Call σ ε α} (h : AllOrNothing c) (f : α → β) :
    AllOrNothing (do return f (← c)) := by
  intro s e t ran
  rw [run_bind] at ran
  rcases hr : c.run s with ⟨cause | a, u⟩ <;> rw [hr] at ran <;> cases ran
  exact h s e t hr

end AllOrNothing

end Call

/-! ## Calls on a database -/

namespace Files

/-- A private database holds nothing for anyone who opens it. -/
theorem tablesOf_of_isPrivate {db : String} (own : isPrivate db = true) (files : Files) :
    files.tablesOf db = .empty := by
  unfold isPrivate at own
  unfold tablesOf
  split
  · rfl
  · next address named =>
    simp only [named, Bool.and_eq_true, Bool.not_eq_true'] at own
    simp [own]

end Files

namespace Command

open Call

section OnDatabase

variable {α : Type} {db : String} {faults : Faults} {c : Faults → Call Tables Failure α}
  {files after : Files}

theorem onDatabase_run (db : String) (faults : Faults) (c : Faults → Call Tables Failure α)
    (files : Files) :
    (onDatabase db faults c).run files =
      match ((Files.openDatabase db).mapError Failure.store).run files with
      | (.error cause, made) => (.error cause, made)
      | (.ok opened, made) =>
        let called := (c (faults.or (.readOnly opened.isReadOnly))).run opened.tables
        (called.1, made.keep opened.storage called.2) := by
  unfold onDatabase
  generalize (Files.openDatabase db).mapError Failure.store = opening
  change Call.andThen opening _ files = _
  unfold Call.andThen Call.run
  rcases opening files with ⟨cause | opened, made⟩ <;> rfl

/-- A call on a database is made to the tables that are there before, and leaves its own behind. -/
theorem onDatabase_eq {r : Except Failure α}
    (ran : (onDatabase db faults c).run files = (r, after)) :
    (∃ cause, r = .error cause ∧ after.tablesOf db = files.tablesOf db) ∨
      ∃ isReadOnly u, (c (faults.or (.readOnly isReadOnly))).run (files.tablesOf db) = (r, u) ∧
        after.tablesOf db = if Files.isPrivate db then .empty else u := by
  rw [onDatabase_run] at ran
  rcases ho : ((Files.openDatabase db).mapError Failure.store).run files
    with ⟨cause | opened, made⟩ <;> rw [ho] at ran <;> cases ran
  · exact .inl ⟨cause, rfl, ((Files.openDatabase_leaves db).mapError _).eq_of_run ho⟩
  · obtain ⟨found, kept⟩ := Files.openDatabase_eq_ok (run_mapError_eq_ok_iff.1 ho)
    rw [← found]
    exact .inr ⟨opened.isReadOnly, _, rfl, kept _⟩

/-- Tables that are as they were are found so, also where they are gone with the command. -/
theorem kept_eq_of_same {u : Tables} (same : u = files.tablesOf db) :
    (if Files.isPrivate db then Tables.empty else u) = files.tablesOf db := by
  split
  · next own => exact (Files.tablesOf_of_isPrivate own files).symm
  · exact same

/-- A call that changes nothing when it fails changes no table of the database then. -/
theorem onDatabase_of_error (h : ∀ faults, (c faults).AllOrNothing) {cause : Failure}
    (failed : (onDatabase db faults c).run files = (.error cause, after)) :
    after.tablesOf db = files.tablesOf db := by
  obtain ⟨_, -, same⟩ | ⟨isReadOnly, u, ran, kept⟩ := onDatabase_eq failed
  · exact same
  · exact kept.trans (kept_eq_of_same (h _ _ _ _ ran))

/-- A call that only looks changes no table of the database. -/
theorem onDatabase_leaves (h : ∀ faults, (c faults).Leaves id) :
    (onDatabase db faults c).Leaves (Files.tablesOf · db) := by
  intro files
  obtain ⟨_, -, same⟩ | ⟨isReadOnly, u, ran, kept⟩ := onDatabase_eq (Prod.mk.eta.symm)
  · exact same
  · exact kept.trans (kept_eq_of_same ((h _).eq_of_run ran))

/-- A call that succeeds is made to the tables that are there before. -/
theorem onDatabase_eq_ok {a : α} (ran : (onDatabase db faults c).run files = (.ok a, after)) :
    ∃ isReadOnly u, (c (faults.or (.readOnly isReadOnly))).run (files.tablesOf db) = (.ok a, u) ∧
      after.tablesOf db = if Files.isPrivate db then .empty else u := by
  obtain ⟨_, ⟨⟩, -⟩ | called := onDatabase_eq ran
  exact called

end OnDatabase

/-! ## Single statements and transactions -/

section Statements

variable {α : Type} {faults : Faults}

theorem refuse_leaves (faults : Faults) (statement : Statement) {c : Call Tables StoreError α}
    (h : c.Leaves id) : (faults.refuse statement c).Leaves id := by
  intro t
  cases fault : faults t statement with
  | none => rw [Faults.run_refuse_of_none fault, h t]
  | some cause => rw [Faults.run_refuse_of_some fault]

theorem look_leaves (faults : Faults) (statement : Statement)
    (f : Tables → Except StoreError α) : (look faults statement f).Leaves id :=
  (refuse_leaves faults statement fun _ => rfl).mapError _

theorem writing_allOrNothing (faults : Faults) (statement : Statement)
    (c : Call Tables StoreError α) : (writing faults statement c).AllOrNothing := by
  intro t cause u ran
  unfold Call.run writing at ran
  split at ran
  · cases ran
    rfl
  · split at ran <;> cases ran
    rfl

/-- What a transaction answers and leaves behind is what the call in it does. -/
theorem transaction_eq_ok {ε : Type} {fault : StoreError → ε} {c : Call Tables ε α} {t u : Tables}
    {a : α} (ran : (faults.transaction fault c).run t = (.ok a, u)) : c.run t = (.ok a, u) := by
  have checked : ∀ {statement : Statement} {v w : Tables},
      ((faults.refuse statement (pure ())).mapError fault).run v = (.ok (), w) → w = v := by
    intro statement v w checked
    exact ((refuse_leaves faults statement (.pure ())).mapError fault).eq_of_run checked
  have ran := atomically_eq_ok_iff.1 ran
  obtain ⟨⟨⟩, v, begun, ran⟩ := run_bind_eq_ok_iff.1 ran
  obtain ⟨b, w, called, ran⟩ := run_bind_eq_ok_iff.1 ran
  obtain ⟨⟨⟩, x, committed, answer⟩ := run_bind_eq_ok_iff.1 ran
  cases answer
  obtain rfl := checked begun
  obtain rfl := checked committed
  exact called

end Statements

/-! ## Lists of names -/

section Names

variable {faults : Faults} {t : Tables}

/-- Tables with a list of names in place of one that they hold, if one is given. -/
def withNames (t : Tables) (key : String) (raw : Option String) : Tables :=
  raw.elim t fun raw => t.setNames key (NameList.parse raw)

/-- A call is refused by the database, and changes nothing. -/
def Refused {α : Type} (faults : Faults) (c : Call Tables Failure α) (t : Tables) : Prop :=
  ∃ statement cause, faults t statement = some cause ∧
    c.run t = (.error (.store (.database cause)), t)

theorem replaceNames_run (faults : Faults) (key : String) (raw : Option String) (t : Tables) :
    (replaceNames faults key raw).run t = (.ok (), withNames t key raw) ∨
      Refused faults (replaceNames faults key raw) t := by
  cases raw with
  | none => exact .inl rfl
  | some raw =>
    cases fault : faults t (.writeSetting key (NameList.format (NameList.parse raw))) with
    | none =>
      left
      simp only [replaceNames, writing, Call.run, Call.change, fault]
      rfl
    | some cause =>
      right
      refine ⟨_, cause, fault, ?_⟩
      simp only [replaceNames, writing, Call.run, Call.change, fault]

/-- The names in a setting are those that the store has without faults. -/
theorem readNames_run (faults : Faults) (key : String) (t : Tables) :
    let names (b : Backend Tables StoreError) := (b.customNames key).mapError Failure.store
    (names (Tables.failing faults)).run t = (names Tables.backend).run t ∨
      Refused faults (names (Tables.failing faults)) t := by
  intro names
  cases fault : faults t (.readSetting key) with
  | none =>
    left
    simp only [names, Backend.customNames, Setting.names, Tables.failing, run_mapError, run_bind,
      Faults.run_refuse_of_none fault]
  | some cause =>
    right
    refine ⟨_, cause, fault, ?_⟩
    simp only [names, Backend.customNames, Setting.names, Tables.failing, run_mapError, run_bind,
      Faults.run_refuse_of_some fault]

theorem customNames_run (faults : Faults) (t : Tables) :
    (customNames faults).run t = (.ok t.view.vocabulary, t) ∨
      Refused faults (customNames faults) t := by
  obtain statuses | ⟨statement, cause, fault, statuses⟩ := readNames_run faults Setting.statuses t
  · obtain types | ⟨statement, cause, fault, types⟩ := readNames_run faults Setting.types t
    · left
      rw [customNames, run_bind, statuses]
      change (Call.run (_ >>= _) t) = _
      rw [run_bind, types]
      rfl
    · right
      refine ⟨statement, cause, fault, ?_⟩
      rw [customNames, run_bind, statuses]
      change (Call.run (_ >>= _) t) = _
      rw [run_bind, types]
  · right
    refine ⟨statement, cause, fault, ?_⟩
    rw [customNames, run_bind, statuses]

/-- What becomes of tables whose lists of names are to be replaced. Either both are, and are shown;
or a statement fails, and the tables stay as they are at that point. -/
theorem replaceVocabulary_run (faults : Faults) (statuses types : Option String) (t : Tables) :
    let first := withNames t Setting.statuses statuses
    let both := withNames first Setting.types types
    let c := replaceVocabulary faults statuses types
    c.run t = (.ok (.vocabulary both.view.vocabulary), both) ∨
      ∃ u ∈ [t, first, both], ∃ statement cause, faults u statement = some cause ∧
        c.run t = (.error (.store (.database cause)), u) := by
  intro first both c
  have one : _ = (Except.ok (), first) ∨ _ := replaceNames_run faults Setting.statuses statuses t
  have two : _ = (Except.ok (), both) ∨ _ := replaceNames_run faults Setting.types types first
  have three := customNames_run faults both
  simp only [c, replaceVocabulary, run_bind]
  obtain one | ⟨statement, cause, fault, one⟩ := one
  · obtain two | ⟨statement, cause, fault, two⟩ := two
    · obtain three | ⟨statement, cause, fault, three⟩ := three
      · left
        simp only [one, two, three, run_pure]
      · exact .inr ⟨both, by simp, statement, cause, fault, by simp only [one, two, three]⟩
    · exact .inr ⟨first, by simp, statement, cause, fault, by simp only [one, two]⟩
  · exact .inr ⟨t, by simp, statement, cause, fault, by simp only [one]⟩

theorem customNames_leaves (faults : Faults) : (customNames faults).Leaves id := by
  intro t
  obtain shown | ⟨statement, cause, -, failed⟩ := customNames_run faults t
  · rw [shown]
  · rw [failed]

/-- In a database that is read only no list is replaced. -/
theorem replaceNames_leaves (faults : Faults) (key : String) (raw : Option String) :
    (replaceNames (faults.or (.readOnly true)) key raw).Leaves id := by
  intro t
  cases raw with
  | none => rfl
  | some raw =>
    have writes : (Statement.writeSetting key (NameList.format (NameList.parse raw))).writes := rfl
    obtain ⟨cause, fault⟩ := faults.or_readOnly_true t writes
    simp only [replaceNames, writing, Call.run, Call.change, fault]

theorem replaceVocabulary_leaves (faults : Faults) (statuses types : Option String) :
    (replaceVocabulary (faults.or (.readOnly true)) statuses types).Leaves id :=
  (replaceNames_leaves _ _ _).andThen fun _ => (replaceNames_leaves _ _ _).andThen fun _ =>
    (customNames_leaves _).andThen fun _ => .pure _

end Names

/-- Reading a source changes nothing. -/
theorem readSource_run (source : String) (token : Option String) (files : Files) :
    ∃ read, (readSource source token).run files = (read, files) := by
  unfold Call.run readSource
  split <;> exact ⟨_, rfl⟩

/-! ## Commands that fail, and commands that only look -/

/-- Whether a request is only for something to be shown. -/
def Request.onlyLooks : Request → Bool
  | .showIssue _ | .dirty | .events _ => true
  | _ => false

/-- A request to replace lists of names has failed after one or both of them were replaced, at a
statement that fails when the tables hold what they hold then. -/
def HalfNamed (faults : Faults) (request : Request) (before after : Tables) (cause : Failure) :
    Prop :=
  ∃ statuses types, request = .vocab statuses types ∧
    let first := withNames before Setting.statuses statuses
    (after = first ∨ after = withNames first Setting.types types) ∧
      ∃ statement refusal, faults after statement = some refusal ∧
        cause = .store (.database refusal)

section Perform

variable {inv : Invocation} {met : Circumstances} {files after : Files}

/-- A command that only looks leaves all tables of its database as they were. -/
theorem perform_leaves (looks : inv.request.onlyLooks = true) :
    (inv.perform met).Leaves (Files.tablesOf · inv.db) := by
  obtain ⟨db, actor, asJson, request⟩ := inv
  cases request <;> dsimp only [Invocation.perform]
  case showIssue id =>
    refine onDatabase_leaves fun faults => (look_leaves _ _ _).andThen fun found => ?_
    cases found with
    | none => exact .fail _
    | some i => exact .pure _
  case dirty => exact onDatabase_leaves fun _ => (look_leaves _ _ _).andThen fun _ => .pure _
  case events id => exact onDatabase_leaves fun _ => (look_leaves _ _ _).andThen fun _ => .pure _
  all_goals cases looks

/-- A command that replaces lists of names and fails leaves the tables as they were, or half way. -/
theorem vocab_of_error {db : String} {faults : Faults} {statuses types : Option String}
    {cause : Failure}
    (failed : (onDatabase db faults fun faults => replaceVocabulary faults statuses types).run
      files = (.error cause, after)) :
    after.tablesOf db = files.tablesOf db ∨
      HalfNamed faults (.vocab statuses types) (files.tablesOf db) (after.tablesOf db) cause := by
  obtain ⟨_, -, same⟩ | ⟨isReadOnly, u, ran, kept⟩ := onDatabase_eq failed
  · exact .inl same
  by_cases own : Files.isPrivate db = true
  · left
    rw [kept, if_pos own, Files.tablesOf_of_isPrivate own]
  rw [if_neg own] at kept
  cases isReadOnly with
  | true =>
    left
    rw [kept]
    exact (replaceVocabulary_leaves faults statuses types).eq_of_run ran
  | false =>
    rw [Faults.or_readOnly_false] at ran
    obtain done | ⟨v, reached, statement, refusal, fault, stopped⟩ :=
      replaceVocabulary_run faults statuses types (files.tablesOf db)
    · rw [ran] at done
      cases done
    · rw [ran] at stopped
      cases stopped
      rw [kept]
      simp only [List.mem_cons, List.not_mem_nil, or_false] at reached
      refine reached.imp id fun reached => ?_
      exact ⟨statuses, types, rfl, reached, statement, refusal, fault, rfl⟩

/-- A command that fails leaves all tables of its database as they were, unless it has replaced a
list of names before that. -/
theorem perform_of_error {cause : Failure}
    (failed : (inv.perform met).run files = (.error cause, after)) :
    after.tablesOf inv.db = files.tablesOf inv.db ∨
      HalfNamed met.faults inv.request (files.tablesOf inv.db) (after.tablesOf inv.db) cause := by
  cases looks : inv.request.onlyLooks with
  | true => exact .inl ((perform_leaves looks).eq_of_run failed)
  | false =>
    obtain ⟨db, actor, asJson, request⟩ := inv
    cases request <;> dsimp only [Invocation.perform] at failed ⊢
    case init space =>
      refine .inl (onDatabase_of_error (fun faults => ?_) failed)
      exact (writing_allOrNothing _ _ _).andAnswer _
    case vocab statuses types => exact vocab_of_error failed
    case create draft mode =>
      refine .inl (onDatabase_of_error (fun faults => ?_) failed)
      exact (AllOrNothing.atomically _).andAnswer _
    case importIssues source token mode =>
      left
      obtain ⟨e | batch, read⟩ := readSource_run source token files <;>
        rw [run_bind, read] at failed
      · cases failed
        rfl
      · refine onDatabase_of_error (fun faults => ?_) failed
        exact (AllOrNothing.atomically _).andAnswer _
    all_goals cases looks

end Perform

/-! ## Commands that take issues in -/

/-- How a request has issues taken in, if it does. -/
def Request.mode? : Request → Option Mode
  | .create _ mode | .importIssues _ _ mode => some mode
  | _ => none

/-- The identifiers of some issues are printed, as part of an object in JSON. The object is read
back from the output; their number is in it too, and has to fit 64 bits for that. -/
def Prints (output : String) (stored : List Issue) : Prop :=
  ∃ json : Json, output = json.lines ++ "\n" ∧ reportedIds json = stored.map Issue.id ∧
    (stored.length < 2 ^ 64 → readJson output = .ok json)

/-- A command that takes issues in and succeeds adds those that it reports. -/
theorem perform_adds {inv : Invocation} {met : Circumstances} {files after : Files} {mode : Mode}
    {report : Report} (takesIn : inv.request.mode? = some mode)
    (ran : (inv.perform met).run files = (.ok report, after)) : ∃ stored u,
      Prints (report.text true) stored ∧
        (files.tablesOf inv.db).Adds (BatchTerms.entries ⟨inv.actor, mode, met.clock⟩ stored) u ∧
        after.tablesOf inv.db = if Files.isPrivate inv.db then .empty else u := by
  obtain ⟨db, actor, asJson, request⟩ := inv
  cases request <;> dsimp only [Invocation.perform] at ran ⊢
  case create draft mode' =>
    obtain rfl : mode' = mode := Option.some.inj takesIn
    obtain ⟨isReadOnly, u, called, kept⟩ := onDatabase_eq_ok ran
    obtain ⟨i, v, created, answer⟩ := run_bind_eq_ok_iff.1 called
    cases answer
    have created := run_mapError_eq_ok_iff.1 (transaction_eq_ok created)
    obtain ⟨adds, priority⟩ := Tables.adds_of_createIssueBy created
    exact ⟨[i], u, ⟨_, rfl, reportedIds_created actor mode' i, fun _ => readJson_created priority⟩,
      adds, kept⟩
  case importIssues source token mode' =>
    obtain rfl : mode' = mode := Option.some.inj takesIn
    obtain ⟨batch, reached, read, ran⟩ := run_bind_eq_ok_iff.1 ran
    obtain ⟨answer, same⟩ := readSource_run source token files
    obtain ⟨-, rfl⟩ := Prod.mk.inj (same.symm.trans read)
    obtain ⟨isReadOnly, u, called, kept⟩ := onDatabase_eq_ok ran
    obtain ⟨ids, v, imported, answer⟩ := run_bind_eq_ok_iff.1 called
    cases answer
    have imported := run_mapError_eq_ok_iff.1 (transaction_eq_ok imported)
    obtain ⟨stored, rfl, adds⟩ := Tables.adds_of_importBatchBy imported
    refine ⟨stored, u, ⟨_, rfl, reportedIds_imported source mode' _, fun few => ?_⟩, adds, kept⟩
    exact readJson_imported (by simpa using few)
  all_goals cases takesIn

/-! ## Commands -/

/-- What a command line does to the database that it names, in any tree of files, whatever
statements fail. One that is not understood leaves all files as they are. A command that only shows
something leaves all tables of the database as they were, and so does a command that fails, unless
it has replaced a list of names before that. A command that takes issues in and succeeds prints
identifiers, in the order of the events, under which the database holds a row, an event and a mark
more than before, and nothing else is different; a database that is in memory and private is gone
with the command. -/
theorem run_accountable (met : Circumstances) (env : Environment) (words : List String)
    (files : Files) :
    let ended := runUnder met env words files
    (∀ stop, Invocation.ofWords env words = .error stop → ended.2 = files) ∧
    ∀ inv, Invocation.ofWords env words = .ok inv →
      let before := files.forAnother.tablesOf inv.db
      let after := ended.2.tablesOf inv.db
      (inv.request.onlyLooks = true → after = before) ∧
      (ended.1.code ≠ 0 → ∃ cause : Failure, ended.1 = .failed cause.message ∧
        (after = before ∨ HalfNamed met.faults inv.request before after cause)) ∧
      ∀ mode, inv.request.mode? = some mode → ended.1.code = 0 → ∃ stored u,
        before.Adds (BatchTerms.entries ⟨inv.actor, mode, met.clock⟩ stored) u ∧
        after = (if Files.isPrivate inv.db then .empty else u) ∧
        (inv.asJson = true → Prints ended.1.output stored) := by
  unfold runUnder
  refine ⟨fun stop stopped => ?_, fun inv understood => ?_⟩
  · rw [stopped]
    cases stop <;> rfl
  · rw [understood]
    dsimp only
    rcases ran : (inv.perform met).run files.forAnother with ⟨cause | report, after⟩
    · refine ⟨fun looks => (perform_leaves looks).eq_of_run ran,
        fun _ => ⟨cause, rfl, perform_of_error ran⟩, fun mode _ succeeded => ?_⟩
      cases succeeded
    · refine ⟨fun looks => (perform_leaves looks).eq_of_run ran,
        fun failed => absurd rfl failed, fun mode takesIn _ => ?_⟩
      obtain ⟨stored, u, prints, adds, kept⟩ := perform_adds takesIn ran
      refine ⟨stored, u, adds, kept, fun asJson => ?_⟩
      rw [asJson]
      exact prints

/-- An issue is taken in, and then is not taken in again. -/
theorem run_accountable_create_twice :
    let env : Environment := ⟨none, none⟩
    let words := ["create", "--title", "Fix the parser", "--id", "bd-1", "--json", "--db", "q"]
    let named := (run env .epoch ["init", "--prefix", "bd", "--db", "q"] .empty).2
    let first := run env .epoch words named
    let second := run env .epoch words first.2
    (∃ stored, stored.map Issue.id = ["bd-1"] ∧
      (readJson first.1.output).map reportedIds = .ok ["bd-1"] ∧
      (named.forAnother.tablesOf "q").Adds
        (BatchTerms.entries (.still ⟨"quarry", .strict, .epoch⟩) stored)
        (first.2.tablesOf "q")) ∧
    second.1.code = 1 ∧ second.2.tablesOf "q" = first.2.forAnother.tablesOf "q" := by
  intro env words named first second
  have understood : Invocation.ofWords env words = .ok ⟨"q", "quarry", true, .create
      { Issue.new "bd-1" "Fix the parser" with createdBy := "quarry" } .strict⟩ := by
    decide +kernel
  obtain ⟨-, -, added⟩ := (run_accountable (.calm .epoch) env words named).2 _ understood
  obtain ⟨-, refused, -⟩ := (run_accountable (.calm .epoch) env words first.2).2 _ understood
  have done : first.1.code = 0 := by decide +kernel
  have failed : second.1.code = 1 := by decide +kernel
  have inFile : ¬ Files.isPrivate "q" = true := by decide +kernel
  have before : (named.forAnother.tablesOf "q").issues.keys = [] := by decide +kernel
  have after : (first.2.tablesOf "q").issues.keys = ["bd-1"] := by decide +kernel
  obtain ⟨stored, u, adds, kept, prints⟩ := added .strict rfl done
  obtain rfl : first.2.tablesOf "q" = u := kept.trans (if_neg inFile)
  have ids : stored.map Issue.id = ["bd-1"] := by
    have keys := adds.keys
    rw [after, before, List.append_nil, BatchTerms.entries_ids] at keys
    exact (List.singleton_perm.1 keys).symm
  obtain ⟨json, -, reported, read⟩ := prints rfl
  have few : stored.length < 2 ^ 64 := by
    rw [← List.length_map (f := Issue.id), ids]
    decide
  have shown : (readJson first.1.output).map reportedIds = .ok ["bd-1"] := by
    rw [show readJson first.1.output = _ from read few, ← ids, ← reported]
    rfl
  obtain ⟨cause, -, same | ⟨_, _, ⟨⟩, -⟩⟩ := refused (by decide +kernel)
  exact ⟨⟨stored, ids, shown, adds⟩, failed, same⟩

/-- Two failures that leave traces. Of two lists of names the second cannot be written, and the
first one stays replaced. An issue is to be taken in where there is no database: that fails, and
leaves an empty one. -/
theorem failures_leave_traces :
    let env : Environment := ⟨none, none⟩
    let faults : Faults := fun _ statement =>
      if statement = .writeSetting Setting.types "spike" then some .diskFault else none
    let words := ["vocab", "--statuses", "review", "--types", "spike", "--db", "q"]
    let named := (run env .epoch ["init", "--prefix", "bd", "--db", "q"] .empty).2
    let half := runUnder ⟨fun _ => .epoch, faults⟩ env words named
    let refused := run env .epoch ["create", "--title", "Fix the parser", "--db", "q"] .empty
    let file := Path.place (Text.utf8 "q")
    (half.1.code = 1 ∧
      half.2.tablesOf "q" = (named.forAnother.tablesOf "q").setNames Setting.statuses ["review"] ∧
      half.2.tablesOf "q" ≠ named.forAnother.tablesOf "q") ∧
    refused.1.code = 1 ∧ Files.empty.nodeAt file = none ∧
      refused.2.nodeAt file = some (.database .empty) := by
  decide +kernel

end Command

end IssueIntake
