import IssueIntake.Proofs.Source.Lines
/-!
# Sources are read exactly

A source is its lines with the ends that they have (`Layout`). What ends a line makes no difference
to what is read of it (`readIssues_bytes`), and the first line that cannot be read is the fault,
whatever else there is (`readLines_of_fault`). `source_read_exactly` says what is read of a source
with issues, one a line, and possibly lines among them that cannot be read.
-/

namespace IssueIntake.Source

open Text

/-! ## Ends of lines -/

/-- How a line ends. -/
inductive LineEnd
  | feed
  /-- With a carriage return before the line feed. -/
  | returnFeed

namespace LineEnd

/-- What stands before the line feed. -/
def before : LineEnd → List Char
  | feed => []
  | returnFeed => ['\r']

theorem before_blank (lineEnd : LineEnd) : ∀ c ∈ lineEnd.before, isBlank c = true ∧ c ≠ '\n' := by
  cases lineEnd with
  | feed => exact fun c hc => absurd hc List.not_mem_nil
  | returnFeed => exact List.forall_mem_singleton.2 ⟨rfl, by decide⟩

end LineEnd

/-- Lines with their ends, and what follows the last end: nothing, if the last line has an end as
well. -/
structure Layout where
  ended : List (List Char × LineEnd)
  rest : List Char
  oneLine : ∀ line ∈ ended.map Prod.fst ++ [rest], '\n' ∉ line

namespace Layout

variable (source : Layout)

/-- The lines without their ends. -/
def lines : List (List Char) :=
  source.ended.map Prod.fst ++ [source.rest]

/-- The lines up to their line feeds. -/
def raw : List (List Char) :=
  source.ended.map (fun l => l.1 ++ l.2.before) ++ [source.rest]

/-- The bytes of a source. -/
def bytes : List UInt8 :=
  lineBytes (source.ended.flatMap (fun l => l.1 ++ l.2.before ++ ['\n']) ++ source.rest)

theorem bytes_eq : source.bytes = sourceBytes source.raw := by
  rw [bytes, sourceBytes, raw, join_concat, List.flatMap_map]

theorem oneLine_raw : ∀ line ∈ source.raw, '\n' ∉ line := by
  intro line hl feed
  rcases List.mem_append.1 hl with hl | hl
  · obtain ⟨l, there, rfl⟩ := List.mem_map.1 hl
    rcases List.mem_append.1 feed with own | behind
    · exact source.oneLine l.1 (List.mem_append_left _ (List.mem_map_of_mem there)) own
    · exact (l.2.before_blank '\n' behind).2 rfl
  · obtain rfl := List.mem_singleton.1 hl
    exact source.oneLine _ (List.mem_append_right _ List.mem_cons_self) feed

/-- Without the blanks around them the lines are the same with and without their ends. -/
theorem trimmed_raw : source.raw.map trimList = source.lines.map trimList := by
  have ends (l : List Char × LineEnd) : trimList (l.1 ++ l.2.before) = trimList l.1 :=
    trimList_append l.1 fun c hc => (l.2.before_blank c hc).1
  simp [raw, lines, ends]

end Layout

/-! ## Reading the lines -/

/-- Lines that are the same without the blanks around them are read alike. -/
theorem readLines_congr {lines others : List (List Char)}
    (same : lines.map trimList = others.map trimList) (number : Nat) (before : List Issue) :
    readLines number before (lines.map lineBytes) =
      readLines number before (others.map lineBytes) := by
  induction lines generalizing others number before with
  | nil =>
    obtain rfl : others = [] := by simpa using same.symm
    rfl
  | cons line lines ih =>
    obtain ⟨other, others, rfl, here, rest⟩ := List.map_eq_cons_iff.1 same.symm
    have alike : readLine number (lineBytes line) = readLine number (lineBytes other) := by
      simp only [readLine, decode?_lineBytes, here]
    simp only [List.map_cons, readLines, alike, ih rest.symm]

/-- A source is read line by line, whatever ends the lines. -/
theorem readIssues_bytes (source : Layout) :
    readIssues source.bytes = readLines 1 [] (source.lines.map lineBytes) := by
  rw [source.bytes_eq, readIssues_sourceBytes source.oneLine_raw]
  exact readLines_congr source.trimmed_raw 1 []

/-- What is wrong with a line that should hold an issue and holds none. -/
def fault? (line : List Char) : Option Json.ReadError :=
  if isPassedOver (trimList line) then none
  else
    match Issue.read (trimList line) with
    | .ok _ => none
    | .error e => some e

theorem readLine_of_fault (number : Nat) {line : List Char} {e : Json.ReadError}
    (fault : fault? line = some e) :
    readLine number (lineBytes line) = .error (.malformed number e) := by
  unfold fault? at fault
  simp only [readLine, decode?_lineBytes]
  split at fault
  · cases fault
  · next given =>
    rw [if_neg given]
    cases hr : Issue.read (trimList line) <;> rw [hr] at fault <;> cases fault
    rfl

theorem readLine_of_fault_eq_none (number : Nat) {line : List Char} (fine : fault? line = none) :
    ∃ found, readLine number (lineBytes line) = .ok found := by
  unfold fault? at fine
  simp only [readLine, decode?_lineBytes]
  split at fine
  · next passed => exact ⟨none, if_pos passed⟩
  · next given =>
    rw [if_neg given]
    cases hr : Issue.read (trimList line) with
    | error e =>
      rw [hr] at fine
      cases fine
    | ok i => exact ⟨some i, rfl⟩

theorem fault?_eq_none_of_readLine {line : List Char} {found : Option Issue}
    (read : readLine 0 (lineBytes line) = .ok found) : fault? line = none := by
  cases fault : fault? line with
  | none => rfl
  | some e =>
    rw [readLine_of_fault 0 fault] at read
    cases read

/-- Lines that hold issues, and those in between, are not at fault. -/
theorem Renders.fine {lines : List (List Char)} {issues : List Issue}
    (rendered : Renders lines issues)
    (readable : ∀ i ∈ issues, i.Readable 126 ∧ i.WholeMetadata) :
    ∀ line ∈ lines, fault? line = none := by
  induction rendered with
  | done => exact fun line hl => absurd hl List.not_mem_nil
  | passed nothing _ _ ih =>
    refine List.forall_mem_cons.2 ⟨?_, ih readable⟩
    exact fault?_eq_none_of_readLine (readLine_of_passedOver 0 nothing)
  | issue blankBefore blankAfter _ ih =>
    obtain ⟨⟨fits, whole⟩, others⟩ := List.forall_mem_cons.1 readable
    refine List.forall_mem_cons.2 ⟨?_, ih others⟩
    exact fault?_eq_none_of_readLine (readLine_issue 0 fits whole
      (fun c hc => (blankBefore c hc).1) fun c hc => (blankAfter c hc).1)

theorem filter_fine {lines : List (List Char)} (fine : ∀ line ∈ lines, fault? line = none) :
    lines.filter (fun line => (fault? line).isNone) = lines :=
  List.filter_eq_self.2 fun line hl => by rw [fine line hl, Option.isNone_none]

theorem findIdx?_fault_eq_none_iff {lines : List (List Char)} :
    lines.findIdx? (fun line => (fault? line).isSome) = none ↔
      ∀ line ∈ lines, fault? line = none := by
  simp

/-- The first line at fault is the fault of the source, whatever comes before and after it. -/
theorem readLines_of_fault (number : Nat) (found : List Issue) {before after : List (List Char)}
    {line : List Char} {e : Json.ReadError} (fine : ∀ l ∈ before, fault? l = none)
    (fault : fault? line = some e) :
    readLines number found ((before ++ line :: after).map lineBytes) =
      .error (.malformed (number + before.length) e) := by
  induction before generalizing number found with
  | nil => simp only [List.nil_append, List.map_cons, readLines, readLine_of_fault number fault,
      List.length_nil, Nat.add_zero]
  | cons l before ih =>
    obtain ⟨here, later⟩ := List.forall_mem_cons.1 fine
    obtain ⟨read, readHere⟩ := readLine_of_fault_eq_none number here
    have next : number + 1 + before.length = number + (before.length + 1) := by omega
    rw [List.cons_append, List.map_cons, readLines, readHere, List.length_cons, ← next]
    cases read with
    | none => exact ih (number + 1) found later
    | some i => exact ih (number + 1) (i :: found) later

theorem readLines_of_findIdx? {lines : List (List Char)} {n : Nat}
    (first : lines.findIdx? (fun line => (fault? line).isSome) = some n) :
    ∃ line e, lines[n]? = some line ∧ fault? line = some e ∧ ∀ number found,
      readLines number found (lines.map lineBytes) = .error (.malformed (number + n) e) := by
  obtain ⟨inside, bad, earlier⟩ := List.findIdx?_eq_some_iff_getElem.1 first
  obtain ⟨e, fault⟩ := Option.isSome_iff_exists.1 bad
  have fine : ∀ line ∈ lines.take n, fault? line = none := by
    intro line hl
    obtain ⟨k, hk, rfl⟩ := List.mem_take_iff_getElem.1 hl
    simpa using earlier k (by omega)
  have cut : lines = lines.take n ++ lines[n] :: lines.drop (n + 1) := by
    rw [← List.drop_eq_getElem_cons inside, List.take_append_drop]
  refine ⟨lines[n], e, List.getElem?_eq_getElem inside, fault, fun number found => ?_⟩
  rw [cut, readLines_of_fault number found fine fault, List.length_take_of_le (by omega)]

/-! ## Sources as a whole -/

/-- A file is read as its bytes are, unless one of them is zero. -/
theorem readPath_bytes (source : Layout) (visible : 0 ∉ source.bytes) (path : String) :
    readPath path (.ok source.bytes) = readIssues source.bytes := by
  have spelled : (decode? source.bytes).isNone = false := by
    rw [Layout.bytes, decode?_lineBytes]
    rfl
  simp only [readPath, List.contains_iff_mem, if_neg visible, spelled]
  rfl

/-- A file that can be read at all is read as its bytes are. -/
theorem eq_of_readPath_eq_ok {path : String} {content : Except FileError (List UInt8)}
    {issues : List Issue} (read : readPath path content = .ok issues) :
    ∃ bytes, content = .ok bytes ∧ readIssues bytes = .ok issues := by
  unfold readPath at read
  cases content with
  | error cause => cases read
  | ok bytes =>
    dsimp only at read
    split at read
    · cases read
    · split at read
      · cases read
      · exact ⟨bytes, rfl, read⟩

/-- Of a source with issues, one a line, those issues are read, in order, if every other line is
passed over. Otherwise the first line that is neither passed over nor read is the fault, with its
number among all lines. A file is read in the same way if none of its bytes is zero, and whatever
is read of a file is read of its bytes. -/
theorem source_read_exactly (source : Layout) {issues : List Issue}
    (rendered : Renders (source.lines.filter fun line => (fault? line).isNone) issues)
    (readable : ∀ i ∈ issues, (∃ s, Issue.parse s = .ok i) ∧ i.WholeMetadata) :
    (match source.lines.findIdx? fun line => (fault? line).isSome with
      | none => readIssues source.bytes = .ok issues
      | some n => ∃ line e, source.lines[n]? = some line ∧ fault? line = some e ∧
        readIssues source.bytes = .error (.malformed (n + 1) e)) ∧
    (0 ∉ source.bytes → ∀ path, readPath path (.ok source.bytes) = readIssues source.bytes) ∧
    ∀ path content found, readPath path content = .ok found →
      ∃ bytes, content = .ok bytes ∧ readIssues bytes = .ok found := by
  refine ⟨?_, readPath_bytes source, fun path content found => eq_of_readPath_eq_ok⟩
  rw [readIssues_bytes source]
  cases first : source.lines.findIdx? fun line => (fault? line).isSome with
  | none =>
    have back : issues.map Issue.written = issues := by
      refine (List.map_congr_left fun i hi => ?_).trans (List.map_id issues)
      obtain ⟨⟨s, read⟩, -⟩ := readable i hi
      rw [Issue.written, ← (Issue.parse_yields s i read).2]
      rfl
    rw [filter_fine (findIdx?_fault_eq_none_iff.1 first)] at rendered
    refine (rendered.readLines (fun i hi => ?_) 1 []).trans ?_
    · obtain ⟨⟨s, read⟩, whole⟩ := readable i hi
      exact ⟨(Issue.parse_yields s i read).1, whole⟩
    · rw [back]
      rfl
  | some n =>
    obtain ⟨line, e, there, fault, stopped⟩ := readLines_of_findIdx? first
    exact ⟨line, e, there, fault, Nat.add_comm 1 n ▸ stopped 1 []⟩

/-- A comment, a blank line and an issue between blanks, with ends of both kinds; and the same with
two lines among them that cannot be read. -/
theorem source_read_exactly_third_line :
    let i := { Issue.new "bd-1" "# Test\u2028" with status := .closed }
    let before := [("# exported".toList, LineEnd.returnFeed), (['\u2003'], .feed)]
    let bad := [("\x7bnot json\x7d".toList, LineEnd.returnFeed), (['['], .feed)]
    ∃ whole broken : Layout, whole.ended = before ∧ broken.ended = before ++ bad ∧
      whole.rest = [' '] ++ i.text.toList ++ ['\r'] ∧ broken.rest = whole.rest ∧
      readIssues whole.bytes = .ok [i] ∧
      ∃ e, readIssues broken.bytes = .error (.malformed 3 e) := by
  intro i before bad
  have blank : ∀ c ∈ [' '] ++ ['\r'], isBlank c = true ∧ c ≠ '\n' :=
    List.forall_mem_append.2 ⟨List.forall_mem_singleton.2 ⟨rfl, by decide⟩,
      List.forall_mem_singleton.2 ⟨rfl, by decide⟩⟩
  have rendered : Renders (before.map Prod.fst ++ [[' '] ++ i.text.toList ++ ['\r']]) [i] :=
    .passed (by decide) (by decide) <| .passed (by decide) (by decide) <|
      .issue (fun c hc => blank c (List.mem_append_left _ hc))
        (fun c hc => blank c (List.mem_append_right _ hc)) .done
  have plain : ∀ j ∈ [i], j.Readable 126 ∧ j.WholeMetadata := List.forall_mem_singleton.2
    ⟨.ofFields rfl rfl (by decide) (by rintro v ⟨⟩), by rintro v ⟨⟩⟩
  obtain ⟨fits, noMetadata⟩ := List.forall_mem_singleton.1 plain
  have readable : ∀ j ∈ [i], (∃ s, Issue.parse s = .ok j) ∧ j.WholeMetadata :=
    List.forall_mem_singleton.2 ⟨⟨i.text, Issue.parse_text fits noMetadata⟩, noMetadata⟩
  obtain ⟨fineBefore, fineLast⟩ := List.forall_mem_append.1 (rendered.fine plain)
  obtain ⟨shortBefore, shortLast⟩ := List.forall_mem_append.1 (rendered.oneLine plain)
  have faulty : ∀ l ∈ bad.map Prod.fst, '\n' ∉ l ∧ (fault? l).isSome = true := by decide +kernel
  let whole : Layout :=
    ⟨before, [' '] ++ i.text.toList ++ ['\r'], List.forall_mem_append.2 ⟨shortBefore, shortLast⟩⟩
  let broken : Layout :=
    ⟨before ++ bad, [' '] ++ i.text.toList ++ ['\r'], by
      rw [List.map_append, List.forall_mem_append, List.forall_mem_append]
      exact ⟨⟨shortBefore, fun l hl => (faulty l hl).1⟩, shortLast⟩⟩
  have all : whole.lines.filter (fun l => (fault? l).isNone) = whole.lines :=
    filter_fine (rendered.fine plain)
  have others : broken.lines.filter (fun l => (fault? l).isNone) = whole.lines := by
    have dropped : (bad.map Prod.fst).filter (fun l => (fault? l).isNone) = [] :=
      List.filter_eq_nil_iff.2 fun l hl => by
        simpa using Option.isSome_iff_ne_none.1 (faulty l hl).2
    rw [Layout.lines, List.map_append, List.filter_append, List.filter_append, dropped,
      filter_fine fineBefore, filter_fine fineLast, List.append_nil]
    rfl
  have nowhere : whole.lines.findIdx? (fun l => (fault? l).isSome) = none :=
    findIdx?_fault_eq_none_iff.2 (rendered.fine plain)
  have third : broken.lines.findIdx? (fun l => (fault? l).isSome) = some 2 := by
    have here : (bad.map Prod.fst ++ [broken.rest]).findIdx? (fun l => (fault? l).isSome) =
        some 0 := List.findIdx?_cons.trans (if_pos (faulty _ List.mem_cons_self).2)
    rw [Layout.lines, List.map_append, List.append_assoc, List.findIdx?_append,
      findIdx?_fault_eq_none_iff.2 fineBefore, here]
    rfl
  have ofWhole := source_read_exactly whole (by rwa [all]) readable
  have ofBroken := source_read_exactly broken (by rwa [others]) readable
  rw [nowhere] at ofWhole
  rw [third] at ofBroken
  obtain ⟨⟨_, e, -, -, stopped⟩, -⟩ := ofBroken
  exact ⟨whole, broken, rfl, rfl, rfl, rfl, ofWhole.1, e, stopped⟩

end IssueIntake.Source
