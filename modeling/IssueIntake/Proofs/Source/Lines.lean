import IssueIntake.Proofs.Issue.Json
import IssueIntake.Proofs.Json.OneLine
import IssueIntake.Proofs.Text.Blank
import IssueIntake.Proofs.Text.Bytes
import IssueIntake.Proofs.Text.Pieces
import IssueIntake.Source.Lines
/-!
# Issues are read back from their lines

`Renders` says that lines hold issues, one a line, with blanks around them and lines in between that
hold none. The issues are read back from the bytes of the lines, in order (`readIssues_renders`).
-/

namespace IssueIntake.Source

open Text

/-- The bytes of a line. -/
def lineBytes (line : List Char) : List UInt8 :=
  utf8 (String.ofList line)

/-- The bytes of a source with these lines. -/
def sourceBytes (lines : List (List Char)) : List UInt8 :=
  lineBytes (join '\n' lines)

theorem decode?_lineBytes (line : List Char) : decode? (lineBytes line) = some line := by
  rw [decode?, lineBytes, ofUtf8?_utf8, Option.map_some, String.toList_ofList]

/-! ## Cutting into lines -/

theorem sourceBytes_eq_join (lines : List (List Char)) :
    sourceBytes lines = join 10 (lines.map lineBytes) := by
  induction lines with
  | nil => rfl
  | cons line lines ih =>
    cases lines with
    | nil => rfl
    | cons next lines =>
      have feed : lineBytes ('\n' :: join '\n' (next :: lines)) =
          10 :: sourceBytes (next :: lines) := utf8_ofList_append ['\n'] _
      rw [sourceBytes, join, lineBytes, utf8_ofList_append, ← lineBytes, ← lineBytes, feed, ih]
      rfl
      simp

/-- A line without anything at the end holds nothing. -/
theorem readLines_concat_nil (number : Nat) (before : List Issue) (lines : List (List UInt8)) :
    readLines number before (lines ++ [[]]) = readLines number before lines := by
  induction lines generalizing number before with
  | nil => rfl
  | cons line lines ih =>
    simp only [List.cons_append, readLines]
    rcases readLine number line with e | _ | i
    · rfl
    · exact ih _ _
    · exact ih _ _

/-- A source is read line by line, whether or not its last line ends in a line feed. -/
theorem readIssues_sourceBytes {lines : List (List Char)} (h : ∀ line ∈ lines, '\n' ∉ line) :
    readIssues (sourceBytes lines) = readLines 1 [] (lines.map lineBytes) := by
  by_cases none : lines = []
  · subst none
    rfl
  have cut : pieces 10 (sourceBytes lines) = lines.map lineBytes := by
    rw [sourceBytes_eq_join]
    refine pieces_join (by simpa using none) fun bytes hb => ?_
    obtain ⟨line, hl, rfl⟩ := List.mem_map.1 hb
    exact fun feed => h line hl (lineFeed_mem_utf8_iff.1 feed)
  rw [readIssues, linesOf, cut]
  split
  · next last =>
    obtain ⟨front, whole⟩ := List.getLast?_eq_some_iff.1 last
    rw [whole, List.dropLast_concat, readLines_concat_nil]
  · rfl

/-! ## Reading lines -/

/-- Lines that hold issues, one a line with blanks around it, and lines in between that are passed
over. -/
inductive Renders : List (List Char) → List Issue → Prop
  | done : Renders [] []
  | passed {line : List Char} {lines : List (List Char)} {issues : List Issue}
    (nothing : isPassedOver (trimList line) = true) (oneLine : '\n' ∉ line)
    (rest : Renders lines issues) : Renders (line :: lines) issues
  | issue {before after : List Char} {i : Issue} {lines : List (List Char)} {issues : List Issue}
    (blankBefore : ∀ c ∈ before, isBlank c = true ∧ c ≠ '\n')
    (blankAfter : ∀ c ∈ after, isBlank c = true ∧ c ≠ '\n') (rest : Renders lines issues) :
    Renders ((before ++ i.text.toList ++ after) :: lines) (i :: issues)

/-- A line may hold an issue and nothing else. -/
theorem Renders.plain {i : Issue} {lines : List (List Char)} {issues : List Issue}
    (rest : Renders lines issues) : Renders (i.text.toList :: lines) (i :: issues) := by
  have none : ∀ c ∈ ([] : List Char), isBlank c = true ∧ c ≠ '\n' := fun c hc =>
    absurd hc List.not_mem_nil
  simpa using Renders.issue (i := i) none none rest

theorem readLine_of_passedOver (number : Nat) {line : List Char}
    (nothing : isPassedOver (trimList line) = true) :
    readLine number (lineBytes line) = .ok none := by
  simp only [readLine, decode?_lineBytes, nothing, if_true]

theorem trimList_text {before after : List Char} (i : Issue)
    (blankBefore : ∀ c ∈ before, isBlank c = true) (blankAfter : ∀ c ∈ after, isBlank c = true) :
    trimList (before ++ i.text.toList ++ after) = i.text.toList := by
  have text : i.text.toList = '\x7b' :: Json.memberChars i.members := String.toList_ofList
  have last : ('\x7b' :: Json.memberChars i.members).getLast? = some '\x7d' := by
    rw [List.getLast?_cons, Json.getLast?_memberChars]
    rfl
  rw [text]
  exact trimList_surrounded blankBefore blankAfter rfl (by decide) last (by decide)

/-- The issue on a line is read back. -/
theorem readLine_issue (number : Nat) {before after : List Char} {i : Issue}
    (readable : i.Readable 126) (whole : i.WholeMetadata)
    (blankBefore : ∀ c ∈ before, isBlank c = true) (blankAfter : ∀ c ∈ after, isBlank c = true) :
    readLine number (lineBytes (before ++ i.text.toList ++ after)) = .ok (some i.written) := by
  have given : isPassedOver i.text.toList = false := by
    rw [Issue.text, Json.text, String.toList_ofList]
    rfl
  have read := Issue.parse_text readable whole
  rw [Issue.parse] at read
  simp only [readLine, decode?_lineBytes, trimList_text i blankBefore blankAfter, given, read]
  rfl

namespace Renders

variable {lines : List (List Char)} {issues : List Issue}

theorem oneLine (h : Renders lines issues)
    (readable : ∀ i ∈ issues, i.Readable 126 ∧ i.WholeMetadata) :
    ∀ line ∈ lines, '\n' ∉ line := by
  induction h with
  | done => exact fun line hl => absurd hl List.not_mem_nil
  | passed nothing oneLine rest ih => exact List.forall_mem_cons.2 ⟨oneLine, ih readable⟩
  | issue blankBefore blankAfter rest ih =>
    obtain ⟨⟨fits, whole⟩, others⟩ := List.forall_mem_cons.1 readable
    refine List.forall_mem_cons.2 ⟨fun feed => ?_, ih others⟩
    rw [Issue.text, Json.text, String.toList_ofList] at feed
    rcases List.mem_append.1 feed with feed | feed
    · rcases List.mem_append.1 feed with feed | feed
      · exact (blankBefore _ feed).2 rfl
      · exact Json.lineFeed_not_mem_chars (Issue.exact_toJson fits whole) feed
    · exact (blankAfter _ feed).2 rfl

/-- Issues are read from their lines after those found before. -/
theorem readLines (h : Renders lines issues)
    (readable : ∀ i ∈ issues, i.Readable 126 ∧ i.WholeMetadata) (number : Nat)
    (before : List Issue) : Source.readLines number before (lines.map lineBytes) =
      .ok (before.reverse ++ issues.map Issue.written) := by
  induction h generalizing number before with
  | done => simp [Source.readLines]
  | passed nothing oneLine rest ih =>
    rw [List.map_cons, Source.readLines, readLine_of_passedOver number nothing]
    exact ih readable _ _
  | issue blankBefore blankAfter rest ih =>
    obtain ⟨⟨fits, whole⟩, others⟩ := List.forall_mem_cons.1 readable
    rw [List.map_cons, Source.readLines, readLine_issue number fits whole
      (fun c hc => (blankBefore c hc).1) (fun c hc => (blankAfter c hc).1)]
    exact (ih others _ _).trans (by simp)

end Renders

/-- Issues are read back from their lines, in order. -/
theorem readIssues_renders {lines : List (List Char)} {issues : List Issue}
    (h : Renders lines issues) (readable : ∀ i ∈ issues, i.Readable 126 ∧ i.WholeMetadata) :
    readIssues (sourceBytes lines) = .ok (issues.map Issue.written) := by
  rw [readIssues_sourceBytes (h.oneLine readable), h.readLines readable]
  rfl

/-- A source that is one text of an issue holds what the text is read as. -/
theorem readIssues_text {i : Issue} (oneLine : '\n' ∉ i.toJson.chars) :
    readIssues (sourceBytes [i.text.toList]) =
      match Issue.read i.toJson.chars with
      | .ok j => .ok [j]
      | .error e => .error (.malformed 1 e) := by
  have text : i.text.toList = i.toJson.chars := String.toList_ofList
  have lines : ∀ line ∈ [i.text.toList], '\n' ∉ line := by
    rwa [List.forall_mem_singleton, text]
  have nothing : ∀ c ∈ ([] : List Char), isBlank c = true := fun c hc =>
    absurd hc List.not_mem_nil
  have trimmed : trimList i.text.toList = i.toJson.chars := by
    simpa only [List.nil_append, List.append_nil, text] using trimList_text i nothing nothing
  have given : isPassedOver i.toJson.chars = false := rfl
  rw [readIssues_sourceBytes lines]
  simp only [List.map_cons, List.map_nil, readLines, readLine, decode?_lineBytes, trimmed, given]
  cases Issue.read i.toJson.chars <;> rfl

end IssueIntake.Source
