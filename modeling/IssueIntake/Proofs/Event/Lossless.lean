import IssueIntake.Proofs.Event.Members
import IssueIntake.Proofs.Issue.Json
/-!
# The text of an event loses nothing

Whatever text an event is read from, its compact text is read back as the same event (`parse_text`).
The object that is written holds the event's own fields, each under its name, without an empty actor
and a comment that is not there, and behind them what has happened (`members_eq`). So it stands for
the event (`ofJson_toJson`). `event_text_lossless` puts this together with what the event was read
from.
-/

namespace IssueIntake

open Json (Kind ReadError)

namespace Action

variable {levels : Nat} {i : Issue}

/-- What has happened is read back from its members. -/
theorem ofMembers_members (h : i.Read levels) :
    ofMembers (created i).members = .ok (created i) := by
  have same : i.written = i := by rw [Issue.written, ← h.2]
  have stands : Issue.ofJson i.toJson = .ok i := by rw [Issue.ofJson_toJson h.1, same]
  simp [ofMembers, members, withoutTag, issueOf, stands, bind, Except.bind, pure, Except.pure,
    checkKeptTag, checkTag, checkName, Json.head]

end Action

namespace Event

variable {levels : Nat} {e : Event}

/-- The issue that an event is about. -/
def issue (e : Event) : Issue :=
  match e.action with
  | .created i => i

theorem action_eq (e : Event) : e.action = .created e.issue := by
  unfold issue
  cases e.action
  rfl

/-- What holds of an event that has been read: its identifier was given, and its issue has been
read. -/
structure Read (levels : Nat) (e : Event) : Prop where
  id : e.id = .given e.id.text
  issue : e.issue.Read levels

theorem ReadFrom.read {ms : List (String × Json)} (h : ReadFrom ms e)
    (readable : ∀ m ∈ ms, m.2.Readable (levels + 1)) : e.Read levels := by
  refine ⟨h.id, ?_⟩
  obtain ⟨m, hm, named⟩ := List.mem_map.1 h.action.issued
  obtain ⟨i, stands, same⟩ := except_map_eq_ok_iff.1 (h.action.issue m hm named)
  rw [issue, ← same]
  exact Issue.ofJson_yields (readable m hm) i stands

/-! ## Reading what is written -/

/-- The values of the fields that are written. -/
def values (e : Event) : Given
  | .schema => some e.schema
  | .id => some e.id.text
  | .issueId => some e.issueId
  | .occurredAt => some e.occurredAt
  | .actor => if e.actor.isEmpty then none else some e.actor
  | .comment => e.comment.map some

/-- The member of a field, if the field is written. -/
def ownMember? (e : Event) (f : Field) : Option (String × Json) :=
  (e.values f).bind fun value => (f.kind.toJson? value).map (f.name, ·)

/-- An event's own fields are written in order, and what has happened behind them. -/
theorem members_eq (e : Event) :
    e.members = Field.all.filterMap e.ownMember? ++ e.action.members := by
  unfold members
  congr 1
  simp only [Field.all, ownMember?, values, Field.kind, List.filterMap_cons, List.filterMap_nil,
    Option.bind_some, Kind.toJson?, Option.map_some, Field.name]
  cases e.actor.isEmpty <;> cases e.comment <;> simp

theorem Field.fits (levels : Nat) (f : Field) (value : f.kind.Value) :
    f.kind.Fits levels value := by
  cases f <;> trivial

theorem takeMember_written {given : Given} {kept : List (String × Json)} {f : Field}
    {value : f.kind.Value} {v : Json} (written : f.kind.toJson? value = some v)
    (absent : given f = none) :
    takeMember (given, kept) (f.name, v) = .ok (given.set f value, kept) := by
  have read := Kind.ofJson_toJson? (f.fits 0 value) written
  simp only [takeMember, Field.ofName?_name, absent, read]
  rfl

/-- Every value is written. -/
theorem values_eq_none {f : Field} (unwritten : e.ownMember? f = none) : e.values f = none := by
  have written : ∀ value, e.values f = some value → f.kind.toJson? value ≠ none := by
    intro value h none
    cases f with
    | comment =>
      obtain ⟨c, -, rfl⟩ := Option.map_eq_some_iff.1 h
      cases none
    | _ => cases none
  cases h : e.values f with
  | none => rfl
  | some value =>
    rw [ownMember?, h, Option.bind_some, Option.map_eq_none_iff] at unwritten
    exact absurd unwritten (written value h)

/-- Taking in the members of the fields sets the fields that are written. -/
theorem foldlM_ownMembers (kept : List (String × Json)) :
    (Field.all.filterMap e.ownMember?).foldlM takeMember (Json.Given.none, kept) =
      .ok (e.values, kept) := by
  refine (Json.foldlM_fields (fun given => (given, kept)) e.values ?_ ?_ (by decide)
    fun _ _ => rfl).trans ?_
  · exact fun f => values_eq_none
  · intro f m given written absent
    obtain ⟨value, h, hv⟩ := Option.bind_eq_some_iff.1 written
    obtain ⟨v, read, rfl⟩ := Option.map_eq_some_iff.1 hv
    rw [h, ← Json.Given.set_eq_update]
    exact takeMember_written read absent
  · congr 2
    funext f
    cases f <;> rfl

theorem ofGiven_values {kept : List (String × Json)} (id : e.id = .given e.id.text)
    (happened : Action.ofMembers kept = .ok e.action) : ofGiven e.values kept = .ok e := by
  have actor : (e.values .actor).getD "" = e.actor := by
    unfold values
    cases h : e.actor.isEmpty
    · rfl
    · exact (String.isEmpty_iff.1 h).symm
  have comment : (e.values .comment).getD none = e.comment := by
    unfold values
    cases e.comment <;> rfl
  simp only [ofGiven, required, happened, actor, comment, bind, Except.bind]
  simp only [values, ← id]
  rfl

theorem foldlM_takeMember_action (a : Action) (given : Given) :
    a.members.foldlM takeMember (given, []) = .ok (given, a.members.reverse) := by
  cases a
  rfl

/-- The object of an event that has been read stands for the event. -/
theorem ofJson_toJson (h : e.Read levels) : ofJson e.toJson = .ok e := by
  have taken : e.members.foldlM takeMember (Json.Given.none, []) =
      .ok (e.values, e.action.members.reverse) := by
    rw [members_eq, List.foldlM_append, foldlM_ownMembers]
    exact foldlM_takeMember_action e.action e.values
  have happened : Action.ofMembers e.action.members = .ok e.action := by
    rw [action_eq]
    exact Action.ofMembers_members h.issue
  simp only [ofJson, toJson, taken, bind, Except.bind, List.reverse_reverse]
  exact ofGiven_values h.id happened

/-! ## The text of an event -/

/-- All members but the issue are scalars without doubles. -/
theorem scalar_of_mem_members {m : String × Json} (hm : m ∈ e.members) :
    m.2.Exact ∧ m.2.levels = 0 ∨ m = ("issue", e.issue.toJson) := by
  rw [members_eq, action_eq] at hm
  rcases List.mem_append.1 hm with hm | hm
  · obtain ⟨f, -, hf⟩ := List.mem_filterMap.1 hm
    obtain ⟨value, -, hv⟩ := Option.bind_eq_some_iff.1 hf
    obtain ⟨v, written, rfl⟩ := Option.map_eq_some_iff.1 hv
    have whole : f.kind.Whole value := by cases f <;> trivial
    have plain : f.kind ≠ .optionalAny := by cases f <;> decide
    exact .inl ⟨Kind.exact_of_toJson? (f.fits 0 value) whole written,
      Kind.levels_toJson? plain written⟩
  · simp only [Action.members, List.mem_cons, List.not_mem_nil, or_false] at hm
    rcases hm with rfl | rfl
    · exact .inl ⟨trivial, rfl⟩
    · exact .inr rfl

theorem exact_toJson (h : e.Read levels) (whole : e.issue.WholeMetadata) : e.toJson.Exact := by
  refine Json.numbers_object.2 fun m hm => ?_
  rcases scalar_of_mem_members hm with ⟨exact, -⟩ | rfl
  · exact exact
  · exact Issue.exact_toJson h.issue.1 whole

/-- An event nests at most two levels deeper than the metadata of its issue may. -/
theorem levels_toJson_le (h : e.Read levels) : e.toJson.levels ≤ levels + 2 := by
  rw [toJson, Json.levels, Nat.add_le_add_iff_right]
  refine Json.memberLevels_le_iff.2 fun m hm => ?_
  rcases scalar_of_mem_members hm with ⟨-, flat⟩ | rfl
  · omega
  · have shallow : e.issue.metadataLevels ≤ levels := h.issue.1.metadataLevels_le
    rw [Issue.levels_toJson]
    omega

/-- An event that has been read is read back from its text. -/
theorem parse_text (h : e.Read 125) (whole : e.issue.WholeMetadata) : parse e.text = .ok e := by
  have shallow : e.toJson.levels ≤ Json.maxLevels := levels_toJson_le h
  refine parse_eq_ok_iff.2 ⟨e.toJson, ?_, ofJson_toJson h⟩
  rw [text, Json.readAll_text (exact_toJson h whole), Json.keepWithin, if_pos shallow]

/-! ## What is read -/

/-- An event that is read from a text is read from the members of the object that the text holds. -/
theorem exists_members_of_parse {s : String} (read : parse s = .ok e) :
    ∃ ms, Json.readAll (Json.readValue Json.maxLevels) s.toList = .ok (.object ms) ∧
      ReadFrom ms e ∧ e.Read 125 := by
  obtain ⟨v, whole, stands⟩ := parse_eq_ok_iff.1 read
  obtain ⟨ms, rfl, fromMembers⟩ := exists_object_of_ofJson stands
  obtain ⟨rest, value, -⟩ := Json.readAll_eq_ok_iff.1 whole
  have readable : (Json.object ms).Readable 127 := Json.readValue_yields _ _ _ value
  exact ⟨ms, whole, fromMembers, fromMembers.read (Json.readable_object.1 readable)⟩

/-! ## Nothing is lost -/

theorem nodup_members (e : Event) : (e.members.map Prod.fst).Nodup := by
  rw [members, action_eq, Action.members]
  cases e.actor.isEmpty <;> cases e.comment <;> simp

/-- An event that has been read from any text is read back from the text that is written of it, and
is written alike again. In both texts the event's own fields, the tag and the issue are told apart
by their names, which all differ. -/
theorem event_text_lossless {s : String} (read : parse s = .ok e)
    (whole : e.issue.WholeMetadata) :
    (∃ e', parse e.text = .ok e' ∧ e' = e ∧ e'.kind = e.kind ∧ e'.text = e.text) ∧
      (∃ ms, Json.readAll (Json.readValue Json.maxLevels) s.toList = .ok (.object ms) ∧
        ReadFrom ms e) ∧
      ReadFrom e.members e ∧ (e.members.map Prod.fst).Nodup ∧
      e.action.members = [("action", .string e.kind), ("issue", e.issue.toJson)] ∧
      e.action.members ⊆ e.members ∧ ∀ f : Field, f.name ∉ e.action.members.map Prod.fst := by
  obtain ⟨ms, value, fromMembers, given⟩ := exists_members_of_parse read
  have written : e.action.members = [("action", .string e.kind), ("issue", e.issue.toJson)] := by
    rw [kind, action_eq]
    rfl
  refine ⟨⟨e, parse_text given whole, rfl, rfl, rfl⟩, ⟨ms, value, fromMembers⟩,
    readFrom_of_ofJson (ofJson_toJson given), e.nodup_members, written, ?_, fun f => ?_⟩
  · rw [members_eq]
    exact List.subset_append_right _ _
  · rw [written]
    cases f <;> simp [Field.name]

/-- An event without any field that may be left out, whose issue has members with the names of the
event's own, and one with all fields, in which the tag is a position. -/
theorem event_text_lossless_odd_forms :
    let bare := "\x7b\"action\":\"created\",\"x\":[1.5],\"issue\":\x7b\"actor\":\"a\"," ++
      "\"metadata\":\x7b\"n\":-2,\"action\":\"b\"\x7d,\"title\":\"T\"\x7d,\"comment\":null," ++
      "\"occurred_at\":\"+10000-12-31 23:59:60.5 +01:00\",\"issue_id\":\"\",\"event_id\":\"e\"\x7d"
    let full := "\x7b\"comment\":\"\",\"issue\":[\"created\",\"\",\"action\"]," ++
      "\"actor\":\"issue\",\"event_id\":\"created\",\"issue_id\":\"action\"," ++
      "\"schema\":\"\",\"action\":0," ++
      "\"occurred_at\":\"+10000-12-31T22:59:60.500Z\"\x7d"
    let moment : Instant := ⟨⟨10000, 12, 31, by decide, by decide, by decide⟩, 22, 59, 59,
      1500000000, by decide, by decide, by decide, by decide, by decide⟩
    let first : Event := ⟨currentSchema, .given "e", "", moment, "", none,
      .created { Issue.new "" "T" with
        metadata := some (.object [("action", .string "b"), ("n", .number (.whole (-2)))]) }⟩
    let second : Event := ⟨"", .given "created", "action", moment, "issue", some "",
      .created (Issue.new "created" "action")⟩
    (parse bare = .ok first ∧ first.issue.WholeMetadata ∧ parse first.text = .ok first) ∧
      parse full = .ok second ∧ second.issue.WholeMetadata ∧ parse second.text = .ok second := by
  intro bare full moment first second
  have readFirst : parse bare = .ok first := except_eq_ok_of_toOption (by decide +kernel)
  have readSecond : parse full = .ok second := except_eq_ok_of_toOption (by decide +kernel)
  have whole : first.issue.WholeMetadata := by
    rintro v ⟨⟩
    exact ⟨trivial, ⟨-2, rfl⟩, trivial⟩
  have plain : second.issue.WholeMetadata := by rintro v ⟨⟩
  obtain ⟨⟨_, backFirst, rfl, -⟩, -⟩ := event_text_lossless readFirst whole
  obtain ⟨⟨_, backSecond, rfl, -⟩, -⟩ := event_text_lossless readSecond plain
  exact ⟨⟨readFirst, whole, backFirst⟩, readSecond, plain, backSecond⟩

end Event

end IssueIntake
