import IssueIntake.Proofs.Command.Accountable
import IssueIntake.Proofs.Ingest.Enforced
import IssueIntake.Proofs.Store.Namespaces
/-!
# The vocabulary that is shown is the one that is enforced

A command that sets both lists of custom names prints the names that they come to, and leaves tables
whose lists were last set from its two texts (`perform_vocab`). `vocabulary_shown_and_enforced`
says what is printed for any two texts, and that it is what a store goes by, in memory or in tables,
until one of the lists is set again.
-/

namespace IssueIntake.Command

open Call

/-! ## What the command prints -/

/-- An output shows the names of a vocabulary: in JSON as two lists in an object, else in two
lines. -/
def Shows (output : String) (asJson : Bool) (v : Vocabulary) : Prop :=
  if asJson then
    ∃ json, readJson output = .ok json ∧
      json.member? "statuses" = some (.array (v.statusNames.map .string)) ∧
      json.member? "types" = some (.array (v.typeNames.map .string))
  else
    output = "quarry vocab\n  Statuses: " ++ ", ".intercalate v.statusNames ++ "\n  Types: " ++
      ", ".intercalate v.typeNames ++ "\n"

theorem shows_vocabulary (asJson : Bool) (v : Vocabulary) :
    Shows ((Report.vocabulary v).text asJson) asJson v := by
  cases asJson with
  | true =>
    refine ⟨_, readJson_text ?_, ?_, ?_⟩
    · simp [Report.members, Within.names]
    · rw [← Report.names, ← normalize_names]
      rfl
    · rw [← Report.names, ← normalize_names]
      rfl
  | false =>
    have first : "quarry vocab\n  Statuses: " = "quarry vocab" ++ "\n" ++ "  Statuses: " := rfl
    have second : "\n  Types: " = "\n" ++ "  Types: " := rfl
    simp only [Shows, Report.text, Report.lines, Bool.false_eq_true, if_false, first, second,
      List.map_cons, List.map_nil, String.join, List.foldl_cons, List.foldl_nil,
      String.empty_append, String.append_assoc]

/-! ## What the command does -/

/-- A command that sets both lists reports the vocabulary of the tables that it leaves. -/
theorem perform_vocab {inv : Invocation} {met : Circumstances} {files after : Files}
    {report : Report} {statuses types : String}
    (asked : inv.request = .vocab (some statuses) (some types))
    (ran : (inv.perform met).run files = (.ok report, after)) :
    report = .vocabulary ⟨NameList.parse statuses, NameList.parse types⟩ ∧
      ∃ u, Tables.backend.LastNamed Tables.setConfig statuses types u ∧
        after.tablesOf inv.db = if Files.isPrivate inv.db then .empty else u := by
  obtain ⟨db, actor, asJson, request⟩ := inv
  obtain rfl : request = .vocab (some statuses) (some types) := asked
  dsimp only [Invocation.perform] at ran ⊢
  obtain ⟨isReadOnly, u, called, kept⟩ := onDatabase_eq_ok ran
  have named : Tables.backend.LastNamed Tables.setConfig statuses types _ :=
    .named (files.tablesOf db) statuses types
  obtain done | ⟨v, -, statement, cause, -, failed⟩ :=
    replaceVocabulary_run _ (some statuses) (some types) (files.tablesOf db)
  · rw [called] at done
    cases done
    exact ⟨congrArg Report.vocabulary (named.vocabulary Tables.backend_indexed), _, named, kept⟩
  · rw [called] at failed
    cases failed

/-! ## Names that are shown are names that are accepted -/

/-- Two texts with names are set as the lists of custom names. What is printed then are the names of
the built-in statuses in their order, and behind them those names in the first text that are not
built in, in the order of their bytes and each once; and so for types with the second text. A store
for which these texts were named last, in memory or in tables, accepts a status or a type with a
name if that name is printed, and else refuses the issue for it, whatever was named before. -/
theorem vocabulary_shown_and_enforced (statuses types : String) :
    let v : Vocabulary := ⟨NameList.parse statuses, NameList.parse types⟩
    Vocabulary.Lists (Status.builtin.map Status.name) (NameList.parse statuses) v.statusNames ∧
    Vocabulary.Lists (IssueType.builtin.map IssueType.name) (NameList.parse types) v.typeNames ∧
    (∀ met env words files inv, Invocation.ofWords env words = .ok inv →
      inv.request = .vocab (some statuses) (some types) →
      let ended := runUnder met env words files
      ended.1.code = 0 → Shows ended.1.output inv.asJson v ∧
        ∃ u, Tables.backend.LastNamed Tables.setConfig statuses types u ∧
          ended.2.tablesOf inv.db = if Files.isPrivate inv.db then .empty else u) ∧
    (∀ m, Memory.backend.LastNamed Memory.setConfig statuses types m →
      Memory.backend.Enforces Memory.view Memory.refusal? v m) ∧
    ∀ t, Tables.backend.LastNamed Tables.setConfig statuses types t →
      Tables.backend.Enforces Tables.view Tables.refusal? v t := by
  intro v
  refine ⟨v.lists_statusNames, v.lists_typeNames,
    fun met env words files inv understood asked => ?_,
    fun m named => named.enforces Memory.backend_indexed,
    fun t named => named.enforces Tables.backend_indexed⟩
  unfold runUnder
  rw [understood]
  dsimp only
  rcases ran : (inv.perform met).run files.forAnother with ⟨cause | report, after⟩
  · intro succeeded
    cases succeeded
  · intro _
    obtain ⟨rfl, u, named, kept⟩ := perform_vocab asked ran
    exact ⟨shows_vocabulary inv.asJson v, u, named, kept⟩

/-- A list with blanks, repetitions and a built-in name, and issues with statuses in and not in
it. -/
theorem vocabulary_shown_and_enforced_review :
    let env : Environment := ⟨none, none⟩
    let statuses := " review,, open,qa ,review"
    let words := ["vocab", "--statuses", statuses, "--types", "spike", "--db", "q"]
    let named := (run env .epoch ["init", "--prefix", "bd", "--db", "q"] .empty).2
    let shown := run env .epoch words named
    let v : Vocabulary := ⟨["review", "open", "qa", "review"], ["spike"]⟩
    let terms : Terms := ⟨"ann", .strict, .epoch⟩
    let issue (status : String) := { Issue.new "bd-1" "Fix the parser" with
      contentHash := "0"
      status := .ofName status }
    let create (i : Issue) := (Tables.createIssue terms i).run (shown.2.tablesOf "q")
    shown.1.output = "quarry vocab\n  Statuses: open, in_progress, blocked, deferred, closed, " ++
        "tombstone, pinned, qa, review\n  Types: bug, feature, task, epic, chore, spike\n" ∧
      Shows (run env .epoch (words ++ ["--json"]) named).1.output true v ∧
      (∃ j t, create (issue "qa") = (.ok j, t)) ∧
      ∃ j t, create (issue "lost") = (.error (.violation (.unknownStatus "lost"), j), t) := by
  intro env statuses words named shown v terms issue create
  have understood : Invocation.ofWords env words =
      .ok ⟨"q", "quarry", false, .vocab (some statuses) (some "spike")⟩ := by
    decide +kernel
  have understood' : Invocation.ofWords env (words ++ ["--json"]) =
      .ok ⟨"q", "quarry", true, .vocab (some statuses) (some "spike")⟩ := by
    decide +kernel
  have parsed : (⟨NameList.parse statuses, NameList.parse "spike"⟩ : Vocabulary) = v := by
    decide +kernel
  have inFile : ¬ Files.isPrivate "q" = true := by decide +kernel
  obtain ⟨-, -, run, -, enforced⟩ := vocabulary_shown_and_enforced statuses "spike"
  rw [parsed] at run enforced
  obtain ⟨text, u, last, kept⟩ :=
    run (.calm .epoch) env words named _ understood rfl (by decide +kernel)
  obtain ⟨json, -⟩ :=
    run (.calm .epoch) env _ named _ understood' rfl (by decide +kernel)
  obtain rfl : shown.2.tablesOf "q" = u := kept.trans (if_neg inFile)
  have judged (status : String) := (enforced _ last).status terms (issue status) status rfl
  refine ⟨Eq.trans text ?_, json,
    (judged "qa" ⟨_, "bd-1", Prod.ext ?_ rfl, ?_, ?_⟩).accepts.2 ?_,
    (judged "lost" ⟨_, "bd-1", Prod.ext ?_ rfl, ?_, ?_⟩).refuses.2 ?_⟩
  all_goals decide +kernel

end IssueIntake.Command
