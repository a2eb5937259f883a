import IssueIntake.Store.Open
/-!
# Opening leaves the tables as they are

On its way to a database, opening makes directories, a file and tables, and drops what a writer has
left beside the file. None of it touches the tables of the database itself, whether opening succeeds
or fails: `Call.Leaves` says that of one step, and `Files.openDatabase_leaves` of all together. What
opening finds are those tables (`Files.tables_of_openDatabase`), and what is kept under them is
found by the next one (`Files.tablesOf_keep`).
-/

namespace IssueIntake

/-! ## Calls that leave something as it is -/

namespace Call

variable {σ ε δ α β γ : Type} {see : σ → γ}

/-- A call succeeds as it does in other words for its failures. -/
theorem run_mapError_eq_ok_iff {f : ε → δ} {c : Call σ ε α} {s t : σ} {a : α} :
    (c.mapError f).run s = (.ok a, t) ↔ c.run s = (.ok a, t) := by
  rw [run_mapError]
  rcases c.run s with ⟨_ | _, _⟩ <;> simp

/-- A call leaves what is seen of the state as it is, whether it succeeds or fails. -/
def Leaves (see : σ → γ) (c : Call σ ε α) : Prop :=
  ∀ s, see (c.run s).2 = see s

namespace Leaves

theorem pure (a : α) : Leaves see (pure a : Call σ ε α) :=
  fun _ => rfl

theorem fail (e : ε) : Leaves see (fail e : Call σ ε α) :=
  fun _ => rfl

theorem mapError {c : Call σ ε α} (h : Leaves see c) (f : ε → δ) : Leaves see (c.mapError f) := by
  intro s
  rw [run_mapError, ← h s]
  rcases c.run s with ⟨_ | _, t⟩ <;> rfl

/-- What is seen after a call that has run. -/
theorem eq_of_run {c : Call σ ε α} (h : Leaves see c) {s t : σ} {r : Except ε α}
    (ran : c.run s = (r, t)) : see t = see s := by
  rw [← h s, ran]

/-- A second call has to leave things as they are only where the first one leads. -/
theorem bind {c : Call σ ε α} {next : α → Call σ ε β} (h : Leaves see c)
    (hn : ∀ s a t, c.run s = (.ok a, t) → see ((next a).run t).2 = see t) :
    Leaves see (c >>= next) := by
  intro s
  rw [run_bind]
  rcases ran : c.run s with ⟨e | a, t⟩
  · exact h.eq_of_run ran
  · exact (hn s a t ran).trans (h.eq_of_run ran)

theorem andThen {c : Call σ ε α} {next : α → Call σ ε β} (h : Leaves see c)
    (hn : ∀ a, Leaves see (next a)) : Leaves see (c >>= next) :=
  h.bind fun _ a t _ => hn a t

end Leaves

end Call

/-! ## What lies at a place after a change -/

/-- The tables of a node; no rows, if it is no database. -/
def Node.tables : Node → Tables
  | .database tables => tables
  | _ => .empty

namespace Files

variable {files : Files} {place other : Place} {node : Node}

theorem lookup_filter_ne (nodes : List (Place × Node)) (different : other ≠ place) :
    (nodes.filter (·.1 != place)).lookup other = nodes.lookup other := by
  induction nodes with
  | nil => rfl
  | cons entry nodes ih =>
    obtain ⟨here, node⟩ := entry
    by_cases removed : here = place
    · subst removed
      have missed : (other == here) = false := beq_eq_false_iff_ne.2 different
      simp [List.lookup_cons, missed, ih]
    · simp [List.lookup_cons, removed, ih]

theorem nodeAt_of_leadsOut (files : Files) (out : place.leadsOut = true) :
    files.nodeAt place = some .directory :=
  if_pos out

theorem nodeAt_of_inside (files : Files) (inside : place.leadsOut = false) :
    files.nodeAt place = files.nodes.lookup place :=
  if_neg (by simp [inside])

theorem nodeAt_remove (files : Files) (different : other ≠ place) :
    (files.remove place).nodeAt other = files.nodeAt other := by
  unfold nodeAt remove
  rw [lookup_filter_ne _ different]

theorem nodeAt_put (files : Files) (node : Node) (different : other ≠ place) :
    (files.put place node).nodeAt other = files.nodeAt other := by
  rw [← nodeAt_remove files different]
  have missed : (other == place) = false := beq_eq_false_iff_ne.2 different
  simp only [nodeAt, put, List.lookup_cons, missed]

theorem nodeAt_put_self (files : Files) (node : Node) (inside : place.leadsOut = false) :
    (files.put place node).nodeAt place = some node := by
  rw [nodeAt_of_inside _ inside]
  simp [put]

/-- The tables of the database at a place; no rows, if there is none. -/
def tablesAt (files : Files) (place : Place) : Tables :=
  ((files.nodeAt place).map Node.tables).getD .empty

theorem tablesAt_of_nodeAt (there : files.nodeAt place = some node) :
    files.tablesAt place = node.tables := by
  rw [tablesAt, there]
  rfl

/-- What is removed beside a place takes nothing away there. -/
theorem tablesAt_remove (files : Files) (different : other ≠ place) :
    (files.remove other).tablesAt place = files.tablesAt place := by
  rw [tablesAt, nodeAt_remove files different.symm, tablesAt]

theorem tablesAt_put_self (files : Files) (node : Node) (inside : place.leadsOut = false) :
    (files.put place node).tablesAt place = node.tables := by
  rw [tablesAt, nodeAt_put_self files node inside]
  rfl

/-- A node that is put where its own tables are leaves all tables as they are. -/
theorem tablesAt_put (own : node.tables = files.tablesAt place) (other : Place) :
    (files.put place node).tablesAt other = files.tablesAt other := by
  by_cases here : other = place
  · subst here
    cases out : other.leadsOut with
    | true => rw [tablesAt, tablesAt, nodeAt_of_leadsOut _ out, nodeAt_of_leadsOut _ out]
    | false => rw [tablesAt_put_self files node out, own]
  · rw [tablesAt, nodeAt_put files node here, tablesAt]

/-- A node without tables that is put where nothing is leaves all tables as they are. -/
theorem tablesAt_put_new (new : files.nodeAt place = none) (blank : node.tables = .empty)
    (other : Place) : (files.put place node).tablesAt other = files.tablesAt other :=
  tablesAt_put (by rw [tablesAt, new, blank]; rfl) other

/-! ## Making directories -/

section Directories

variable {γ : Type} {see : Files → γ}
  (blind : ∀ files place, files.nodeAt place = none →
    see (files.put place .directory) = see files)

include blind

theorem makeDirectory_leaves (start : Place) (names : List FileName) :
    (makeDirectory start names).Leaves see := by
  intro files
  unfold Call.run makeDirectory
  split
  · rfl
  · split
    · next new => exact blind files _ new
    · rfl

theorem needDirectory_leaves (start : Place) (names : List FileName) :
    (needDirectory start names).Leaves see := by
  intro files
  have made := makeDirectory_leaves blind start names files
  unfold Call.run at made ⊢
  unfold needDirectory
  split <;> simp_all

theorem makeDirectories_leaves (start : Place) (names : List FileName) :
    (makeDirectories start names).Leaves see := by
  induction names with
  | nil => exact .pure ()
  | cons name outer ih =>
    intro files
    have tried := needDirectory_leaves blind start (name :: outer).reverse files
    have again := ih.andThen fun _ => needDirectory_leaves blind start (name :: outer).reverse
    unfold Call.run at tried ⊢
    unfold makeDirectories
    split
    · next missing reached =>
      rw [reached] at tried
      exact (again missing).trans tried
    · exact tried

/-- Whoever does not see new directories sees nothing of those that a path needs. -/
theorem makeParent_leaves (path : String) : (makeParent path).Leaves see := by
  unfold makeParent
  exact Call.Leaves.andThen (fun _ => rfl) fun _ => makeDirectories_leaves blind _ _

end Directories

/-! ## The file of a database -/

theorem openFile_leaves (mode : OpenMode) (place other : Place) :
    (openFile mode place).Leaves (tablesAt · other) := by
  intro files
  unfold Call.run openFile
  split
  · rfl
  · split
    · next new =>
      split
      · exact tablesAt_put_new new rfl other
      · rfl
    · rfl
    · rfl

/-- What lies beside a place lies elsewhere. -/
theorem ne_of_beside {suffix : String} (some : Text.utf8 suffix ≠ [])
    (beside : place.beside suffix = .some other) : other ≠ place := by
  unfold Place.beside at beside
  rintro rfl
  split at beside
  · next name last =>
    dsimp only at beside
    split at beside
    · have longer := congrArg List.getLast? (Option.some.inj beside)
      rw [List.getLast?_concat, last, Option.some.injEq] at longer
      exact some (by simpa using longer)
    · cases beside
  · cases beside

theorem dropJournal_leaves (place : Place) (isReadOnly : Bool) :
    (dropJournal place isReadOnly).Leaves (tablesAt · place) := by
  intro files
  unfold Call.run dropJournal
  split
  · rfl
  · next journal beside =>
    have dropped := tablesAt_remove files (ne_of_beside (by decide) beside)
    dsimp only
    split <;> repeat' split
    all_goals first | rfl | exact dropped

theorem dropLog_leaves (place : Place) (isReadOnly : Bool) :
    (dropLog place isReadOnly).Leaves (tablesAt · place) := by
  intro files
  unfold Call.run dropLog
  split
  · rfl
  · next log beside =>
    have dropped := tablesAt_remove files (ne_of_beside (by decide) beside)
    dsimp only
    split <;> repeat' split
    all_goals first | rfl | exact dropped

/-- Loading leaves the tables as they are, also where it makes them. -/
theorem loadTables_leaves (place : Place) (isReadOnly : Bool) :
    (loadTables place isReadOnly).Leaves (tablesAt · place) := by
  intro files
  unfold Call.run loadTables
  split
  · rfl
  · next content there =>
    have none : files.tablesAt place = .empty := tablesAt_of_nodeAt there
    split
    · rfl
    · split
      · rfl
      · unfold makeTables
        split
        · rfl
        · next journal beside =>
          have elsewhere := ne_of_beside (by decide) beside
          have dropped := tablesAt_remove files elsewhere
          split
          · rfl
          · exact (tablesAt_put (by rw [dropped, none]; rfl) place).trans dropped
  · rfl

/-- What is loaded are the tables at the place of the file, and there is a file. -/
theorem loadTables_eq_ok {place : Place} {isReadOnly : Bool} {tables : Tables} {after : Files}
    (loaded : (loadTables place isReadOnly).run files = (.ok tables, after)) :
    tables = files.tablesAt place ∧ place.leadsOut = false := by
  have inside : ∀ node, files.nodeAt place = some node → node ≠ .directory →
      place.leadsOut = false := by
    intro node there file
    cases out : place.leadsOut with
    | false => rfl
    | true =>
      rw [nodeAt_of_leadsOut files out] at there
      exact absurd (Option.some.inj there).symm file
  unfold Call.run loadTables at loaded
  split at loaded
  · next found there =>
    cases loaded
    exact ⟨(tablesAt_of_nodeAt there).symm, inside _ there (by rintro ⟨⟩)⟩
  · next content there =>
    refine ⟨?_, inside _ there (by rintro ⟨⟩)⟩
    rw [tablesAt_of_nodeAt there]
    split at loaded
    · cases loaded
    · split at loaded
      · cases loaded
      · unfold makeTables at loaded
        split at loaded
        · cases loaded
        · split at loaded
          · cases loaded
          · cases loaded
            rfl
  · cases loaded

/-! ## The database in a file -/

end Files

/-- Where the name of a database leads: name by name, whatever there is on the way. -/
def Path.place (name : List UInt8) : Place :=
  (Path.names name).foldl Place.enter (Path.start name)

namespace Files

variable {files : Files} {place other : Place}

/-- The way to a database is the one that its name spells. -/
theorem eq_of_foldlM_approach {names : List FileName}
    (reached : names.foldlM files.approach place = some other) :
    other = names.foldl Place.enter place := by
  induction names generalizing place with
  | nil => exact (Option.some.inj reached).symm
  | cons name names ih =>
    obtain ⟨next, step, rest⟩ := Option.bind_eq_some_iff.1 reached
    have entered : next = place.enter name := by
      unfold approach at step
      dsimp only at step
      split at step
      · exact (Option.some.inj step).symm
      · split at step
        · cases step
        · split at step <;> cases step <;> rfl
    rw [List.foldl_cons, ← entered]
    exact ih rest

theorem eq_of_placeOf {name : List UInt8} (reached : files.placeOf name = some place) :
    place = Path.place name :=
  eq_of_foldlM_approach reached

/-- Opens the database in the file at a place. -/
def openAt (path : String) (address : Address) (place : Place) :
    Call Files DatabaseError OpenDatabase := do
  if place = [[Path.slash]] then .fail (.cannotOpen path)
  (openFile address.mode place).mapError fun _ => .cannotOpen path
  if !address.isImmutable then
    dropJournal place address.isReadOnly
    dropLog place address.isReadOnly
  return ⟨← loadTables place address.isReadOnly, .file place, address.isReadOnly⟩

/-- A database in a file is opened at the place that its name spells, if it is opened. -/
theorem openInFile_run (path : String) (address : Address) (files : Files) :
    (openInFile path address).run files =
      match files.placeOf address.name with
      | some place => (openAt path address place).run files
      | none => (.error (.cannotOpen path), files) := by
  rw [openInFile, Call.run_bind, Call.run_look]
  cases files.placeOf address.name <;> rfl

theorem openAt_leaves (path : String) (address : Address) (place : Place) :
    (openAt path address place).Leaves (tablesAt · place) := by
  have load : Call.Leaves (tablesAt · place) (do
      let tables ← loadTables place address.isReadOnly
      return (⟨tables, .file place, address.isReadOnly⟩ : OpenDatabase)) :=
    (loadTables_leaves place _).andThen fun _ => .pure _
  have opened := (openFile_leaves address.mode place place).mapError
    fun _ => DatabaseError.cannotOpen path
  unfold openAt
  dsimp only
  split
  · exact fun _ => rfl
  · refine opened.andThen fun _ => ?_
    split
    · exact (dropJournal_leaves place _).andThen fun _ =>
        (dropLog_leaves place _).andThen fun _ => load
    · exact load

theorem openInFile_leaves (path : String) (address : Address) :
    (openInFile path address).Leaves (tablesAt · (Path.place address.name)) := by
  intro files
  rw [openInFile_run]
  cases reached : files.placeOf address.name with
  | none => rfl
  | some place =>
    rw [← eq_of_placeOf reached]
    exact openAt_leaves path address place files

/-- What is opened at a place are the tables that it had before. -/
theorem openAt_eq_ok {path : String} {address : Address} {opened : OpenDatabase} {after : Files}
    (ran : (openAt path address place).run files = (.ok opened, after)) :
    opened.tables = files.tablesAt place ∧ opened.storage = .file place ∧
      place.leadsOut = false := by
  unfold openAt at ran
  dsimp only at ran
  split at ran
  · cases ran
  · obtain ⟨_, made, open', ran⟩ := Call.run_bind_eq_ok_iff.1 ran
    have same := ((openFile_leaves address.mode place place).mapError _).eq_of_run open'
    split at ran
    · obtain ⟨_, left, journal, ran⟩ := Call.run_bind_eq_ok_iff.1 ran
      obtain ⟨_, left', log, ran⟩ := Call.run_bind_eq_ok_iff.1 ran
      obtain ⟨tables, _, loaded, answer⟩ := Call.run_bind_eq_ok_iff.1 ran
      cases answer
      obtain ⟨found, inside⟩ := loadTables_eq_ok loaded
      have same' := (dropJournal_leaves place _).eq_of_run journal
      have same'' := (dropLog_leaves place _).eq_of_run log
      exact ⟨found.trans (same''.trans (same'.trans same)), rfl, inside⟩
    · obtain ⟨tables, _, loaded, answer⟩ := Call.run_bind_eq_ok_iff.1 ran
      cases answer
      obtain ⟨found, inside⟩ := loadTables_eq_ok loaded
      exact ⟨found.trans same, rfl, inside⟩

/-- What is opened in a file are the tables at its place. What is kept there is found again. -/
theorem openInFile_eq_ok {path : String} {address : Address} {opened : OpenDatabase}
    {after : Files} (ran : (openInFile path address).run files = (.ok opened, after)) :
    opened.tables = files.tablesAt (Path.place address.name) ∧ ∀ tables,
      (after.keep opened.storage tables).tablesAt (Path.place address.name) = tables := by
  rw [openInFile_run] at ran
  cases reached : files.placeOf address.name with
  | none =>
    rw [reached] at ran
    cases ran
  | some place =>
    simp only [reached] at ran
    obtain ⟨found, stored, inside⟩ := openAt_eq_ok ran
    rw [← eq_of_placeOf reached, stored]
    exact ⟨found, fun tables => tablesAt_put_self after (.database tables) inside⟩

/-! ## Any database -/

/-- The tables of the database that a path or a URI names; no rows, if there is none. -/
def tablesOf (files : Files) (db : String) : Tables :=
  match Address.ofBytes (Text.utf8 db) with
  | .error _ => .empty
  | .ok address =>
    if address.isInMemory then
      if address.isCommon then
        (files.inMemory.lookup (address.system, address.name)).getD .empty
      else .empty
    else files.tablesAt (Path.place address.name)

/-- Whether a database is in memory, and only for the one who opens it. -/
def isPrivate (db : String) : Bool :=
  match Address.ofBytes (Text.utf8 db) with
  | .error _ => false
  | .ok address => address.isInMemory && !address.isCommon

theorem openInMemory_leaves {db : String} {address : Address}
    (named : Address.ofBytes (Text.utf8 db) = .ok address) (inMemory : address.isInMemory = true) :
    (openInMemory address).Leaves (tablesOf · db) := by
  intro files
  unfold Call.run openInMemory
  simp only [tablesOf, named, if_pos inMemory]
  by_cases refused : address.isReadOnly = true
  · simp [refused]
  · by_cases common : address.isCommon = true <;> simp [refused, common]

/-- What is opened in memory are the tables under the name of the database. What is kept there is
found again, unless the database is private. -/
theorem openInMemory_eq_ok {db : String} {address : Address}
    (named : Address.ofBytes (Text.utf8 db) = .ok address) (inMemory : address.isInMemory = true)
    {opened : OpenDatabase} {after : Files}
    (ran : (openInMemory address).run files = (.ok opened, after)) :
    opened.tables = files.tablesOf db ∧ ∀ tables,
      (after.keep opened.storage tables).tablesOf db =
        if isPrivate db then .empty else tables := by
  simp only [Call.run, openInMemory] at ran
  simp only [tablesOf, isPrivate, named, inMemory, if_true, Bool.true_and]
  by_cases refused : address.isReadOnly = true
  · simp [refused] at ran
  · by_cases common : address.isCommon = true
    · simp only [if_neg refused, if_pos common, Prod.mk.injEq, Except.ok.injEq] at ran
      obtain ⟨rfl, rfl⟩ := ran
      simp [keep, common]
    · simp only [if_neg refused, if_neg common, Prod.mk.injEq, Except.ok.injEq] at ran
      obtain ⟨rfl, rfl⟩ := ran
      simp [common]

theorem makeParent_leaves_tablesOf (path db : String) :
    (makeParent path).Leaves (tablesOf · db) := by
  refine makeParent_leaves (fun files place new => ?_) path
  unfold tablesOf
  split
  · rfl
  · rw [tablesAt_put_new new rfl]
    rfl

theorem openDatabase_leaves (db : String) : (openDatabase db).Leaves (tablesOf · db) := by
  unfold openDatabase
  refine ((makeParent_leaves_tablesOf db db).mapError _).andThen fun _ => ?_
  dsimp only
  split
  · exact fun _ => rfl
  · cases named : Address.ofBytes (Text.utf8 db) with
    | error e => exact .fail _
    | ok address =>
      dsimp only
      split
      · next inMemory => exact (openInMemory_leaves named inMemory).mapError _
      · next inFile =>
        refine .mapError ?_ _
        simp only [tablesOf, named, if_neg inFile]
        exact openInFile_leaves db address

/-- Opening finds the tables that were there before. What is kept after it is found by the next one
that opens the database, unless the database is private. -/
theorem openDatabase_eq_ok {db : String} {opened : OpenDatabase} {after : Files}
    (ran : (openDatabase db).run files = (.ok opened, after)) :
    opened.tables = files.tablesOf db ∧ ∀ tables,
      (after.keep opened.storage tables).tablesOf db =
        if isPrivate db then .empty else tables := by
  unfold openDatabase at ran
  obtain ⟨_, made, parent, ran⟩ := Call.run_bind_eq_ok_iff.1 ran
  have same := ((makeParent_leaves_tablesOf db db).mapError _).eq_of_run parent
  dsimp only at ran
  split at ran
  · cases ran
  · cases named : Address.ofBytes (Text.utf8 db) with
    | error e =>
      rw [named] at ran
      cases ran
    | ok address =>
      simp only [named] at ran
      split at ran
      · next inMemory =>
        obtain ⟨found, kept⟩ :=
          openInMemory_eq_ok named inMemory (Call.run_mapError_eq_ok_iff.1 ran)
        exact ⟨found.trans same, kept⟩
      · next inFile =>
        obtain ⟨found, kept⟩ := openInFile_eq_ok (Call.run_mapError_eq_ok_iff.1 ran)
        simp only [tablesOf, isPrivate, named, if_neg inFile] at same ⊢
        refine ⟨found.trans same, fun tables => ?_⟩
        simp [inFile, kept]

end Files

end IssueIntake
