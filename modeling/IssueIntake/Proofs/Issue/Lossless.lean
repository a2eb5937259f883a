import IssueIntake.Issue.Fingerprint
import IssueIntake.Proofs.Issue.Json
/-!
# The text of an issue loses nothing

Whatever text an issue is read from, its compact text is read back as the same issue
(`parse_text_of_parse`). Every field that is left out of that text has its default
(`get_eq_default`), so two issues that differ in what is written have different texts
(`written_eq_of_text_eq`). `text_lossless` puts this together.
-/

namespace IssueIntake.Issue

variable {levels : Nat} {i j : Issue}

/-! ## Fields that are left out -/

/-- A field that is not among the members of the object has its default. -/
theorem get_eq_default {f : Field} (absent : f.name ∉ i.members.map Prod.fst) :
    i.get f = f.default := by
  apply Field.default_of_toJson?
  cases h : f.toJson? (i.get f) with
  | none => rfl
  | some v => exact absurd (List.mem_map_of_mem (mem_members h)) absent

/-! ## Reading back -/

/-- An issue that has been read is read back from its own text. -/
theorem parse_text_of_parse {s : String} (read : parse s = .ok i) (whole : i.WholeMetadata) :
    parse i.text = .ok i := by
  obtain ⟨readable, token⟩ := parse_yields s i read
  have same : i.written = i := by rw [written, ← token]
  rw [parse_text readable whole, same]

/-- Issues with the same text are the same in all that is written of them. -/
theorem written_eq_of_text_eq (hi : i.Readable 126) (hj : j.Readable 126)
    (wholeI : i.WholeMetadata) (wholeJ : j.WholeMetadata) (same : i.text = j.text) :
    i.written = j.written := by
  have read := parse_text hi wholeI
  rw [same, parse_text hj wholeJ] at read
  exact (Except.ok.inj read).symm

/-! ## Changing some fields -/

/-- The issue with another reference to the outside. -/
def withReference (i : Issue) (reference : Option String) : Issue :=
  { i with externalRef := reference }

theorem Readable.withReference (h : i.Readable levels) (reference : Option String) :
    (i.withReference reference).Readable levels :=
  h.congr rfl rfl rfl rfl

/-- The issue with the status and the type that have these names. -/
def named (i : Issue) (status issueType : String) : Issue :=
  { i with status := .ofName status, issueType := .ofName issueType }

theorem Readable.named (h : i.Readable levels) (status issueType : String) :
    (i.named status issueType).Readable levels :=
  .ofFields (congrArg Status.ofName (Status.name_ofName status))
    (congrArg IssueType.ofName (IssueType.name_ofName issueType)) (h.fields .priority)
    (h.fields .metadata)

/-! ## Nothing is lost -/

/-- An issue that has been read from any text is read back from the text that is written of it,
and is written alike again, with the same fingerprint. What is left out of that text has its
default; an empty reference is written differently from none at all; and statuses and types are
read back whatever their names are. -/
theorem text_lossless {s : String} (read : parse s = .ok i) (whole : i.WholeMetadata) :
    (∃ j, parse i.text = .ok j ∧ j = i ∧ j.text = i.text ∧ j.fingerprint = i.fingerprint) ∧
      (∀ f : Field, f.name ∉ i.members.map Prod.fst → i.get f = f.default) ∧
      (i.withReference (some "")).text ≠ (i.withReference none).text ∧
      ∀ status issueType : String,
        parse (i.named status issueType).text = .ok (i.named status issueType) ∧
          (i.named status issueType).status.name = status ∧
          (i.named status issueType).issueType.name = issueType := by
  obtain ⟨readable, token⟩ := parse_yields s i read
  refine ⟨⟨i, parse_text_of_parse read whole, rfl, rfl, rfl⟩, fun f => get_eq_default, ?_, ?_⟩
  · intro same
    have equal := written_eq_of_text_eq (readable.withReference (some ""))
      (readable.withReference none) whole whole same
    have references : some "" = none := congrArg Issue.externalRef equal
    cases references
  · intro status issueType
    have back : (i.named status issueType).written = i.named status issueType := by
      rw [written, named, ← token]
    refine ⟨?_, Status.name_ofName status, IssueType.name_ofName issueType⟩
    rw [parse_text (readable.named status issueType) whole, back]

/-- An array in which the title comes third, and an object with members that are unknown, out of
order and given twice, a leap second in the year 10000 and an empty reference. -/
theorem text_lossless_odd_forms :
    let array := "[\"\",\"\",\"T\",\"\",\"\",\"\",\"\",\"closed\",0]"
    let object := "\x7b\"x\":[1.5],\"metadata\":\x7b\"b\":1,\"a\":[null,\"\\u0000\"],\"b\":-2\x7d," ++
      "\"title\":\"T\",\"external_ref\":\"\",\"status\":\"review\"," ++
      "\"created_at\":\"+10000-12-31 23:59:60.5 +01:00\"\x7d"
    let first := { Issue.new "" "T" with status := .closed, priority := 0 }
    let second := { Issue.new "" "T" with
      status := .custom "review"
      createdAt := some ⟨⟨10000, 12, 31, by decide, by decide, by decide⟩, 22, 59, 59, 1500000000,
        by decide, by decide, by decide, by decide, by decide⟩
      externalRef := some ""
      metadata := some (.object [("a", .array [.null, .string "\x00"]),
        ("b", .number (.whole (-2)))]) }
    (parse array = .ok first ∧ parse first.text = .ok first) ∧
      parse object = .ok second ∧ second.WholeMetadata ∧ parse second.text = .ok second ∧
        (second.withReference (some "")).text ≠ (second.withReference none).text := by
  intro array object first second
  have given : ∀ {s : String} {i : Issue}, (parse s).toOption = some i → parse s = .ok i := by
    intro s i h
    cases hs : parse s with
    | error e => simp [hs, Except.toOption] at h
    | ok j => simpa [hs, Except.toOption] using h
  have readFirst : parse array = .ok first := given (by decide +kernel)
  have readSecond : parse object = .ok second := given (by decide +kernel)
  have plain : first.WholeMetadata := by rintro v ⟨⟩
  have whole : second.WholeMetadata := by
    rintro v ⟨⟩
    exact ⟨⟨trivial, trivial, trivial⟩, ⟨-2, rfl⟩, trivial⟩
  obtain ⟨⟨_, backFirst, rfl, -⟩, -⟩ := text_lossless readFirst plain
  obtain ⟨⟨_, backSecond, rfl, -⟩, -, references, -⟩ := text_lossless readSecond whole
  exact ⟨⟨readFirst, backFirst⟩, readSecond, whole, backSecond, references⟩

end IssueIntake.Issue
