import IssueIntake.Issue.Json
import IssueIntake.Proofs.Json.Given
import IssueIntake.Proofs.Json.Members
/-!
# Issues are read back as they are written

An issue that is read is made of its fields, each of which fits (`parse_yields`). Such an issue is
the one that its object stands for (`ofJson_toJson`) and the one that is read from its text
(`parse_text`): a field that is left out has its default. Only the token of its namespace, which is
never written, is lost.
-/

namespace IssueIntake

namespace Status

theorem name_ofName (s : String) : (ofName s).name = s := by
  unfold ofName
  cases h : builtin.find? (·.name == s) with
  | none => rfl
  | some status =>
    have named := List.find?_some h
    exact eq_of_beq named

end Status

namespace IssueType

theorem name_ofName (s : String) : (ofName s).name = s := by
  unfold ofName
  cases h : builtin.find? (·.name == s) with
  | none => rfl
  | some type =>
    have named := List.find?_some h
    exact eq_of_beq named

end IssueType

namespace Issue

open Json (Kind ReadError Head)

/-- The part of an issue that is written and stored: all but the token of its namespace. -/
def written (i : Issue) : Issue :=
  { i with spaceToken := "" }

/-- An issue that can be read: its fields fit, and its status and its type are what their names
stand for. -/
structure Readable (levels : Nat) (i : Issue) : Prop where
  fields : ∀ f : Field, f.kind.Fits levels (i.get f)
  status : .ofName i.status.name = i.status
  issueType : .ofName i.issueType.name = i.issueType

/-- Only some fields can keep an issue from being read. -/
theorem Readable.ofFields {levels : Nat} {i : Issue} (status : .ofName i.status.name = i.status)
    (issueType : .ofName i.issueType.name = i.issueType)
    (priority : -2147483648 ≤ i.priority ∧ i.priority ≤ 2147483647)
    (metadata : ∀ v, i.metadata = some v → v ≠ .null ∧ v.normalize = v ∧ v.Readable levels) :
    i.Readable levels where
  fields f := by
    cases f with
    | priority => exact priority
    | metadata => exact metadata
    | _ => trivial
  status := status
  issueType := issueType

theorem Readable.congr {levels : Nat} {i j : Issue} (h : i.Readable levels)
    (status : j.status = i.status) (issueType : j.issueType = i.issueType)
    (priority : j.priority = i.priority) (metadata : j.metadata = i.metadata) :
    j.Readable levels := by
  refine .ofFields ?_ ?_ ?_ ?_
  · rw [status, h.status]
  · rw [issueType, h.issueType]
  · rw [priority]
    exact h.fields .priority
  · rw [metadata]
    exact h.fields .metadata

/-! ## What is read -/

theorem Field.default_fits (levels : Nat) (f : Field) : f.kind.Fits levels f.default := by
  cases f with
  | priority => exact ⟨by decide, by decide⟩
  | metadata => rintro v ⟨⟩
  | _ => trivial

/-- An issue has the fields of which it is made. -/
theorem get_ofGiven (given : Given) (f : Field) :
    (ofGiven given).get f = (given f).getD f.default := by
  cases f with
  | status => exact Status.name_ofName _
  | issueType => exact IssueType.name_ofName _
  | _ => rfl

theorem ofGiven_readable {levels : Nat} {given : Given} (h : given.Fit levels) :
    (ofGiven given).Readable levels where
  fields f := by
    rw [get_ofGiven]
    cases hf : given f with
    | none => exact f.default_fits levels
    | some value => exact h f value hf
  status := congrArg Status.ofName (Status.name_ofName _)
  issueType := congrArg IssueType.ofName (IssueType.name_ofName _)

/-- What holds of an issue that has been read. -/
def Read (levels : Nat) (i : Issue) : Prop :=
  i.Readable levels ∧ i.spaceToken = ""

theorem ofGiven?_yields {levels : Nat} (missing : ReadError) {given : Given}
    (h : given.Fit levels) : Yields (Read levels) (ofGiven? missing given) := by
  unfold ofGiven?
  split
  · exact .ok ⟨ofGiven_readable h, rfl⟩
  · exact .error _

theorem readMember_yields (levels : Nat) {given : Given} (h : given.Fit levels) (key : String)
    (cs : List Char) : Yields (fun r => r.1.Fit levels) (readMember levels given key cs) := by
  unfold readMember
  cases Field.ofName? key with
  | none => exact .bind_any fun _ => .bind_any fun _ => .ok h
  | some f =>
    dsimp only
    split
    · exact .error _
    · exact .bind_any fun cs => (Kind.readField_yields levels f.kind cs).bind fun _ fits =>
        .ok (h.set fits)

theorem readItems_yields (levels : Nat) (fields : List Field) (first : Bool) {given : Given}
    (h : given.Fit levels) (cs : List Char) :
    Yields (fun r => r.1.Fit levels) (readItems levels fields first given cs) := by
  induction fields generalizing first given cs with
  | nil =>
    unfold readItems
    split
    · exact .error _
    · exact .ok h
    · split <;> exact .error _
    · exact .error _
  | cons f fields ih =>
    refine .bind_any fun next => ?_
    cases next with
    | done rest => exact .ok h
    | more cs =>
      exact (Kind.readField_yields levels f.kind cs).bind fun r fits => ih false (h.set fits) r.2

theorem finish_yields (levels : Nat) (head : Head) (cs : List Char) :
    Yields (fun r => Read levels r.1) (finish (levels + 1) head cs) := by
  have none : (Json.Given.none : Given).Fit levels := Json.Given.none_fit levels
  cases head with
  | openArray =>
    refine (readItems_yields levels Field.all true none cs).bind fun r fit => ?_
    exact (ofGiven?_yields _ fit).bind fun i read => .ok read
  | openObject =>
    refine (Json.foldMembers_yields (p := Json.Given.Fit levels) ?_ _ true none cs).bind
      fun r fit => ?_
    · exact fun given key cs fit => readMember_yields levels fit key cs
    · exact (ofGiven?_yields _ fit).bind fun i read => .ok read
  | _ => exact .error _

/-- What is read of a text is an issue that can be read, without the token of a namespace. -/
theorem parse_yields (s : String) : Yields (Read 126) (parse s) := by
  refine .bind (p := fun r => Read 126 r.1) ?_ fun r read => ?_
  · exact .bind_any fun h => finish_yields 126 h.1 h.2
  · dsimp only
    split
    · exact .ok read
    · exact .error _

theorem takeItems_yields {levels : Nat} {items : List Json}
    (readable : ∀ v ∈ items, v.Readable levels) (fields : List Field) {given : Given}
    (h : given.Fit levels) : Yields (Json.Given.Fit levels) (takeItems fields items given) := by
  induction items generalizing fields given with
  | nil =>
    cases fields <;> exact .ok h
  | cons v items ih =>
    obtain ⟨here, rest⟩ := List.forall_mem_cons.1 readable
    cases fields with
    | nil => exact .error _
    | cons f fields =>
      exact (f.kind.ofJson_yields here).bind fun _ fits => ih rest fields (h.set fits)

/-- The issue that a value stands for can be read one level further in than the value. -/
theorem ofJson_yields {levels : Nat} {v : Json} (readable : v.Readable (levels + 1)) :
    Yields (Read levels) (ofJson v) := by
  have none : (Json.Given.none : Given).Fit levels := Json.Given.none_fit levels
  cases v with
  | array items =>
    have each := Json.readable_array.1 readable
    exact (takeItems_yields each Field.all none).bind fun _ fit => ofGiven?_yields _ fit
  | object members =>
    have each := Json.readable_object.1 readable
    refine (Yields.foldlM (q := Json.Given.Fit levels) ?_ none).bind
      fun _ fit => ofGiven?_yields _ fit
    intro given m hm fit
    unfold takeMember
    cases Field.ofName? m.1 with
    | none => exact .ok fit
    | some f =>
      dsimp only
      split
      · exact .error _
      · exact .map ((f.kind.ofJson_yields (each m hm)).mono fun _ fits => fit.set fits)
  | _ => exact .error _

/-! ## Reading what is written -/

theorem Field.mem_all (f : Field) : f ∈ all := by
  cases f <;> decide

theorem Field.ofName?_name (f : Field) : ofName? f.name = some f :=
  Json.fieldNamed?_name (by decide) f.mem_all

theorem Field.kind_toJson? {f : Field} {value : f.kind.Value} {v : Json}
    (h : f.toJson? value = some v) : f.kind.toJson? value = some v := by
  unfold Field.toJson? at h
  split at h
  · next s hs =>
    split at h
    · cases h
    · rw [hs, h]
  · exact h

/-- A field that is left out has its default. -/
theorem Field.default_of_toJson? {f : Field} {value : f.kind.Value} (h : f.toJson? value = none) :
    value = f.default := by
  have empty : ∀ {s : String} {v : Json},
      (if s.isEmpty && true && true then none else some v) = none → s = "" := by
    intro s v hs
    simpa using hs
  cases f with
  | id | title | status | issueType => simp [toJson?, Kind.toJson?, isAlways] at h
  | priority | ephemeral | pinned => cases h
  | createdAt | updatedAt | closedAt | deletedAt | externalRef =>
    cases value with
    | none => rfl
    | some t => simp [toJson?, Kind.toJson?, Kind.momentJson] at h
  | metadata =>
    cases value with
    | none => rfl
    | some v => cases v <;> simp [toJson?, Kind.toJson?] at h
  | _ => exact empty h

/-- The values of the fields that are written. -/
def values (i : Issue) : Given := fun f =>
  if (f.toJson? (i.get f)).isSome then some (i.get f) else none

theorem values_getD (i : Issue) (f : Field) : (i.values f).getD f.default = i.get f := by
  unfold values
  cases h : f.toJson? (i.get f) with
  | none => exact (Field.default_of_toJson? h).symm
  | some v => rfl

variable {levels : Nat} {i : Issue}

theorem takeMember_written (h : i.Readable levels) {f : Field} {v : Json}
    (written : f.toJson? (i.get f) = some v) {given : Given} (absent : given f = none) :
    takeMember given (f.name, v) = .ok (given.set f (i.get f)) := by
  have read := Kind.ofJson_toJson? (h.fields f) (Field.kind_toJson? written)
  simp only [takeMember, Field.ofName?_name, absent, read]
  rfl

/-- Taking in the members that are written for some fields sets the fields that are written. -/
theorem foldlM_takeMember (h : i.Readable levels) {fs : List Field} (distinct : fs.Nodup)
    {given : Given} (absent : ∀ f ∈ fs, given f = none) :
    (fs.filterMap fun f => (f.toJson? (i.get f)).map (f.name, ·)).foldlM takeMember given =
      .ok fun f => if f ∈ fs then i.values f else given f := by
  refine Json.foldlM_fields (fun given => given) i.values ?_ ?_ distinct absent
  · intro f unwritten
    rw [values, Option.map_eq_none_iff.1 unwritten]
    rfl
  · intro f m given written absent
    obtain ⟨v, hv, rfl⟩ := Option.map_eq_some_iff.1 written
    have there : i.values f = some (i.get f) := by
      rw [values, hv]
      rfl
    rw [there, ← Json.Given.set_eq_update]
    exact takeMember_written h hv absent

/-- Issues with the same fields are written alike. -/
theorem written_eq_of_get {j : Issue} (hi : i.Readable levels) (hj : j.Readable levels)
    (same : ∀ f : Field, i.get f = j.get f) : i.written = j.written := by
  have status : i.status = j.status := by
    rw [← hi.status, ← hj.status]
    exact congrArg Status.ofName (same .status)
  have issueType : i.issueType = j.issueType := by
    rw [← hi.issueType, ← hj.issueType]
    exact congrArg IssueType.ofName (same .issueType)
  simp only [written, mk.injEq]
  exact ⟨same .id, same .contentHash, same .title, same .description, same .design,
    same .acceptanceCriteria, same .notes, status, same .priority, issueType, same .assignee,
    same .owner, same .createdBy, same .createdAt, same .updatedAt, same .closedAt,
    same .closeReason, same .deletedAt, same .deletedBy, same .deleteReason, same .externalRef,
    same .ephemeral, same .pinned, same .metadata, trivial⟩

theorem values_fit (h : i.Readable levels) : i.values.Fit levels := by
  intro f value hf
  unfold values at hf
  split at hf
  · cases hf
    exact h.fields f
  · cases hf

/-- An issue is made of its fields, but for the token of its namespace. -/
theorem ofGiven_values (h : i.Readable levels) : ofGiven i.values = i.written := by
  refine written_eq_of_get (ofGiven_readable (values_fit h)) h ?_
  intro f
  rw [get_ofGiven, values_getD]

/-- The object of an issue stands for the issue. -/
theorem ofJson_toJson (h : i.Readable levels) : ofJson i.toJson = .ok i.written := by
  have taken : i.members.foldlM takeMember Json.Given.none = .ok i.values := by
    refine (foldlM_takeMember h (by decide) fun f _ => rfl).trans ?_
    congr 1
    funext f
    rw [if_pos f.mem_all]
  have titled : (i.values .title).isSome = true := by
    simp [values, Field.toJson?, Kind.toJson?, Field.isAlways]
  simp only [ofJson, toJson, taken, bind, Except.bind, ofGiven?, titled, if_true, ofGiven_values h]

/-! ## The object of an issue -/

/-- How deep arrays and objects nest in the metadata of an issue. -/
def metadataLevels (i : Issue) : Nat :=
  match i.metadata with
  | some v => v.levels
  | none => 0

theorem Readable.metadataLevels_le (h : i.Readable levels) : i.metadataLevels ≤ levels := by
  cases hv : i.metadata with
  | none => simp only [metadataLevels, hv, Nat.zero_le]
  | some v =>
    obtain ⟨-, -, readable⟩ := h.fields .metadata v hv
    simpa only [metadataLevels, hv] using readable.shallow

/-- The metadata of an issue has whole numbers only. -/
def WholeMetadata (i : Issue) : Prop :=
  ∀ v, i.metadata = some v → v.Numbers Json.Number.IsWhole

theorem exists_of_mem_members {m : String × Json} (hm : m ∈ i.members) :
    ∃ (f : Field) (v : Json), f.kind.toJson? (i.get f) = some v ∧ m = (f.name, v) := by
  obtain ⟨f, -, hf⟩ := List.mem_filterMap.1 hm
  obtain ⟨v, hv, rfl⟩ := Option.map_eq_some_iff.1 hf
  exact ⟨f, v, Field.kind_toJson? hv, rfl⟩

/-- A field with something to write is among the members of the object. -/
theorem mem_members {f : Field} {v : Json} (h : f.toJson? (i.get f) = some v) :
    (f.name, v) ∈ i.members := by
  refine List.mem_filterMap.2 ⟨f, f.mem_all, ?_⟩
  rw [h]
  rfl

theorem mem_members_metadata {v : Json} (hv : i.metadata = some v) :
    (Field.metadata.name, v) ∈ i.members := by
  refine mem_members (f := .metadata) ?_
  rw [get, hv]
  cases v <;> simp [Field.toJson?, Kind.toJson?]

/-- An object of an issue has exact numbers only, if its metadata has whole ones. -/
theorem exact_toJson (h : i.Readable levels) (whole : i.WholeMetadata) : i.toJson.Exact := by
  refine Json.numbers_object.2 fun m hm => ?_
  obtain ⟨f, v, hv, rfl⟩ := exists_of_mem_members hm
  refine Kind.exact_of_toJson? (h.fields f) ?_ hv
  cases f with
  | metadata => exact whole
  | _ => trivial

/-- An object of an issue nests one level deeper than its metadata. -/
theorem levels_toJson (i : Issue) : i.toJson.levels = i.metadataLevels + 1 := by
  rw [toJson, Json.levels, Nat.add_right_cancel_iff]
  refine Nat.le_antisymm (Json.memberLevels_le_iff.2 fun m hm => ?_) ?_
  · obtain ⟨f, v, hv, rfl⟩ := exists_of_mem_members hm
    by_cases hf : f = .metadata
    · subst hf
      have there : i.metadata = some v := hv
      simp only [metadataLevels, there, Nat.le_refl]
    · have plain : f.kind ≠ .optionalAny := by cases f <;> simp_all
      rw [Kind.levels_toJson? plain hv]
      exact Nat.zero_le _
  · cases hv : i.metadata with
    | none =>
      simp only [metadataLevels, hv]
      exact Nat.zero_le _
    | some v =>
      simp only [metadataLevels, hv]
      exact Json.memberLevels_le_iff.1 (Nat.le_refl _) _ (mem_members_metadata hv)

/-! ## The text of an issue -/

theorem readMember_reads (h : i.Readable levels) {f : Field} {v : Json}
    (written : f.kind.toJson? (i.get f) = some v) (exact : v.Exact) :
    Json.Layout.compact.ReadsMember (readMember levels) takeMember (f.name, v) := by
  intro given rest ends
  have passed : Json.colon (':' :: (v.chars ++ rest)) = .ok (v.chars ++ rest) := rfl
  have read := Kind.readField_chars (h.fields f) written exact ends
  have taken := Kind.ofJson_toJson? (h.fields f) written
  simp only [readMember, takeMember, Field.ofName?_name]
  split
  · rfl
  · simp only [Json.Layout.compact_write, passed, read, taken, bind, Except.bind]
    rfl

/-- The text of an issue is read back as the issue. -/
theorem parse_text (h : i.Readable 126) (whole : i.WholeMetadata) :
    parse i.text = .ok i.written := by
  have reads : ∀ m ∈ i.members, Json.Layout.compact.ReadsMember (readMember 126) takeMember m := by
    intro m hm
    have exact := Json.numbers_object.1 (exact_toJson h whole) m hm
    obtain ⟨f, v, hv, rfl⟩ := exists_of_mem_members hm
    exact readMember_reads h hv exact
  have folded := Json.foldMembers_memberChars reads Json.Given.none []
  rw [List.append_nil] at folded
  have front : Json.readHead i.text.toList = .ok (.openObject, Json.memberChars i.members) := by
    rw [text, Json.text, String.toList_ofList]
    rfl
  have object := ofJson_toJson h
  rw [toJson, ofJson] at object
  simp only [parse, read, Json.readAll, readPart, front, Json.maxLevels, finish, folded, bind,
    Except.bind] at object ⊢
  cases taken : i.members.foldlM takeMember Json.Given.none with
  | error e =>
    rw [taken] at object
    cases object
  | ok given =>
    simp only [taken, Except.map] at object ⊢
    rw [object]
    rfl

end Issue

end IssueIntake
