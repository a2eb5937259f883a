import IssueIntake.Event.Json
import IssueIntake.Proofs.Json.Given
import IssueIntake.Proofs.Json.Members
/-!
# The members that an event is read from

An event is read from a text just if the text holds a value that stands for the event
(`parse_eq_ok_iff`). Of the members of such a value, each of the event's own fields is read from the
one with its name, and what has happened from the members `action` and `issue` alone
(`ReadFrom`, `readFrom_of_ofJson`). Members with other names are passed over.
-/

namespace IssueIntake

open Json (Kind ReadError Head)

namespace Action

variable {ms rest : List (String × Json)} {a : Action}

/-! ## What has happened -/

theorem of_withoutTag {seen : Bool} (read : withoutTag seen ms = .ok rest) :
    rest = ms.filter (·.1 ≠ "action") ∧
      (∀ m ∈ ms, m.1 = "action" → checkKeptTag m.2.head = .ok ()) ∧
      (seen = false → "action" ∈ ms.map Prod.fst) := by
  induction ms generalizing seen rest with
  | nil =>
    cases seen <;> cases read
    simp
  | cons m ms ih =>
    obtain ⟨key, value⟩ := m
    rw [withoutTag] at read
    by_cases tag : key = "action"
    · subst tag
      cases seen with
      | true => cases read
      | false =>
        simp only [if_true, Bool.false_eq_true, if_false, except_bind_eq_ok_iff] at read
        obtain ⟨_, checked, read⟩ := read
        obtain ⟨rfl, tags, -⟩ := ih read
        exact ⟨by simp, List.forall_mem_cons.2 ⟨fun _ => checked, tags⟩, by simp⟩
    · rw [if_neg tag, except_bind_eq_ok_iff] at read
      obtain ⟨others, read, same⟩ := read
      cases same
      obtain ⟨rfl, tags, there⟩ := ih read
      exact ⟨by simp [tag], List.forall_mem_cons.2 ⟨fun same => absurd same tag, tags⟩,
        fun unseen => List.mem_cons_of_mem _ (there unseen)⟩

theorem of_issueOf {seen : Option Issue} (read : issueOf seen ms = .ok a) :
    (∀ i, seen = some i → a = created i) ∧
      (∀ m ∈ ms, m.1 = "issue" → (Issue.ofJson m.2).map created = .ok a) ∧
      (seen = none → "issue" ∈ ms.map Prod.fst) := by
  induction ms generalizing seen with
  | nil =>
    cases seen <;> cases read
    simp
  | cons m ms ih =>
    obtain ⟨key, value⟩ := m
    rw [issueOf] at read
    by_cases issue : key = "issue"
    · subst issue
      cases seen with
      | some i => cases read
      | none =>
        simp only [if_true, Option.isSome_none, Bool.false_eq_true, if_false,
          except_bind_eq_ok_iff] at read
        obtain ⟨i, stands, read⟩ := read
        obtain ⟨same, others, -⟩ := ih read
        obtain rfl := same i rfl
        have here : (Issue.ofJson value).map created = .ok (created i) := by
          rw [stands]
          rfl
        exact ⟨by rintro _ ⟨⟩, List.forall_mem_cons.2 ⟨fun _ => here, others⟩, by simp⟩
    · rw [if_neg issue] at read
      obtain ⟨same, others, there⟩ := ih read
      exact ⟨same, List.forall_mem_cons.2 ⟨fun same => absurd same issue, others⟩,
        fun unseen => List.mem_cons_of_mem _ (there unseen)⟩

/-- What has happened and the members that say so. -/
structure ReadFrom (ms : List (String × Json)) (a : Action) : Prop where
  tagged : "action" ∈ ms.map Prod.fst
  tag : ∀ m ∈ ms, m.1 = "action" → checkKeptTag m.2.head = .ok ()
  issued : "issue" ∈ ms.map Prod.fst
  issue : ∀ m ∈ ms, m.1 = "issue" → (Issue.ofJson m.2).map created = .ok a

theorem mem_names_of_filter {p : String × Json → Bool} {key : String}
    (h : key ∈ (ms.filter p).map Prod.fst) : key ∈ ms.map Prod.fst :=
  List.map_subset Prod.fst List.filter_sublist.subset h

theorem readFrom_of_ofMembers (read : ofMembers ms = .ok a) : ReadFrom ms a := by
  rw [ofMembers, except_bind_eq_ok_iff] at read
  obtain ⟨others, untagged, issues⟩ := read
  obtain ⟨rfl, tag, tagged⟩ := of_withoutTag untagged
  obtain ⟨-, issue, issued⟩ := of_issueOf issues
  refine ⟨tagged rfl, tag, mem_names_of_filter (issued rfl), fun m hm named => ?_⟩
  exact issue m (List.mem_filter.2 ⟨hm, by simp [named]⟩) named

end Action

namespace Event

/-! ## Fields -/

namespace Field

theorem mem_all (f : Field) : f ∈ all := by
  cases f <;> decide

theorem ofName?_name (f : Field) : ofName? f.name = some f :=
  Json.fieldNamed?_name (by decide) f.mem_all

/-- The value of a field that is not given, if it need not be given. -/
def default? : (f : Field) → Option f.kind.Value
  | schema => some currentSchema
  | actor => some ""
  | comment => some none
  | id | issueId | occurredAt => none

end Field

/-- The value of an event's own field. -/
def get (e : Event) : (f : Field) → f.kind.Value
  | .schema => e.schema
  | .id => e.id.text
  | .issueId => e.issueId
  | .occurredAt => e.occurredAt
  | .actor => e.actor
  | .comment => e.comment

variable {levels : Nat} {ms kept kept' : List (String × Json)} {given given' : Given} {e : Event}

/-! ## Taking in members -/

/-- The members that are no field of an event itself. -/
def extras (ms : List (String × Json)) : List (String × Json) :=
  ms.filter fun m => (Field.ofName? m.1).isNone

theorem mem_extras {m : String × Json} (hm : m ∈ ms) (other : Field.ofName? m.1 = none) :
    m ∈ extras ms :=
  List.mem_filter.2 ⟨hm, by rw [other, Option.isNone_none]⟩

/-- What has happened is none of the event's own fields. -/
theorem readFrom_of_extras {a : Action} (read : a.ReadFrom (extras ms)) : a.ReadFrom ms where
  tagged := Action.mem_names_of_filter read.tagged
  tag m hm named := read.tag m (mem_extras hm (by rw [named]; rfl)) named
  issued := Action.mem_names_of_filter read.issued
  issue m hm named := read.issue m (mem_extras hm (by rw [named]; rfl)) named

/-- What taking in a member can do: it sets a field of the event that has not been given before, or
it keeps the member. -/
theorem takeMember_cases {m : String × Json}
    (taken : takeMember (given, kept) m = .ok (given', kept')) :
    (∃ f value, Field.ofName? m.1 = some f ∧ given f = none ∧ f.kind.ofJson m.2 = .ok value ∧
      given' = given.set f value ∧ kept' = kept) ∨
    (Field.ofName? m.1 = none ∧ given' = given ∧ kept' = m :: kept) := by
  unfold takeMember at taken
  cases named : Field.ofName? m.1 with
  | none =>
    rw [named] at taken
    cases taken
    exact .inr ⟨rfl, rfl, rfl⟩
  | some f =>
    rw [named] at taken
    dsimp only at taken
    split at taken
    · cases taken
    · next absent =>
      obtain ⟨value, read, same⟩ := except_map_eq_ok_iff.1 taken
      cases same
      exact .inl ⟨f, value, rfl, by simpa using absent, read, rfl, rfl⟩

/-- What members say about the fields of an event when they have been taken in, and what is kept. -/
structure Taken (ms : List (String × Json)) (given : Given) (kept : List (String × Json))
    (given' : Given) (kept' : List (String × Json)) : Prop where
  stays : ∀ f value, given f = some value → given' f = some value
  named : ∀ m ∈ ms, ∀ f : Field, f.name = m.1 →
    ∃ value, f.kind.ofJson m.2 = .ok value ∧ given' f = some value
  others : ∀ f, f.name ∉ ms.map Prod.fst → given' f = given f
  kept : kept' = (extras ms).reverse ++ kept

theorem taken_of_foldlM (taken : ms.foldlM takeMember (given, kept) = .ok (given', kept')) :
    Taken ms given kept given' kept' := by
  induction ms generalizing given kept with
  | nil =>
    cases taken
    exact ⟨fun _ _ h => h, by simp, fun _ _ => rfl, rfl⟩
  | cons m ms ih =>
    rw [List.foldlM_cons, except_bind_eq_ok_iff] at taken
    obtain ⟨⟨given₁, kept₁⟩, one, taken⟩ := taken
    have rest := ih taken
    rcases takeMember_cases one with ⟨f, value, named, absent, read, rfl, rfl⟩ | ⟨none, rfl, rfl⟩
    · have set := rest.stays f value (Json.Given.set_self given f value)
      refine ⟨fun g w hg => ?_, List.forall_mem_cons.2 ⟨fun g hg => ?_, rest.named⟩,
        fun g hg => ?_, ?_⟩
      · have other : f ≠ g := by
          rintro rfl
          rw [absent] at hg
          cases hg
        exact rest.stays g w ((Json.Given.set_of_ne given other value).trans hg)
      · rw [← hg, Field.ofName?_name, Option.some.injEq] at named
        subst named
        exact ⟨value, read, set⟩
      · rw [List.map_cons, List.mem_cons, not_or] at hg
        have other : f ≠ g := by
          rintro rfl
          exact hg.1 (Json.name_of_fieldNamed? named)
        rw [rest.others g hg.2, Json.Given.set_of_ne given other]
      · rw [rest.kept, extras, extras, List.filter_cons_of_neg (by simp [named])]
    · refine ⟨rest.stays, List.forall_mem_cons.2 ⟨fun g hg => ?_, rest.named⟩,
        fun g hg => ?_, ?_⟩
      · rw [← hg, Field.ofName?_name] at none
        cases none
      · rw [List.map_cons, List.mem_cons, not_or] at hg
        exact rest.others g hg.2
      · rw [rest.kept, extras, extras, List.filter_cons_of_pos (by simp [none])]
        simp

/-! ## What an event is read from -/

/-- An event and the members that it is read from. -/
structure ReadFrom (ms : List (String × Json)) (e : Event) : Prop where
  /-- A member with the name of a field is that field. -/
  named : ∀ m ∈ ms, ∀ f : Field, f.name = m.1 → f.kind.ofJson m.2 = .ok (e.get f)
  /-- A field without a member has its default. -/
  left : ∀ f : Field, f.name ∉ ms.map Prod.fst → f.default? = some (e.get f)
  action : e.action.ReadFrom ms
  id : e.id = .given e.id.text

theorem eq_some_of_required {f : Field} {value : f.kind.Value}
    (there : required given f = .ok value) : given f = some value := by
  unfold required at there
  cases h : given f <;> rw [h] at there <;> cases there
  rfl

theorem ofGiven_eq_ok (made : ofGiven given kept = .ok e) :
    (∀ f, (given f).or f.default? = some (e.get f)) ∧ e.id = .given e.id.text ∧
      Action.ofMembers kept = .ok e.action := by
  simp only [ofGiven, except_bind_eq_ok_iff] at made
  obtain ⟨id, hid, issueId, hissueId, moment, hmoment, action, happened, made⟩ := made
  cases made
  refine ⟨fun f => ?_, rfl, happened⟩
  cases f with
  | id => exact congrArg (Option.or · none) (eq_some_of_required hid)
  | issueId => exact congrArg (Option.or · none) (eq_some_of_required hissueId)
  | occurredAt => exact congrArg (Option.or · none) (eq_some_of_required hmoment)
  | schema => exact Option.or_some
  | actor => exact Option.or_some
  | comment => exact Option.or_some

theorem readFrom_of_ofJson (stands : ofJson (.object ms) = .ok e) : ReadFrom ms e := by
  simp only [ofJson, except_bind_eq_ok_iff] at stands
  obtain ⟨⟨given, kept⟩, folded, made⟩ := stands
  have taken := taken_of_foldlM folded
  obtain ⟨fields, id, happened⟩ := ofGiven_eq_ok made
  dsimp only at fields happened
  rw [taken.kept, List.append_nil, List.reverse_reverse] at happened
  refine ⟨fun m hm f hf => ?_, fun f hf => ?_,
    readFrom_of_extras (Action.readFrom_of_ofMembers happened), id⟩
  · obtain ⟨value, read, set⟩ := taken.named m hm f hf
    have same := fields f
    rw [set, Option.some_or, Option.some.injEq] at same
    rw [read, same]
  · rw [← fields f, taken.others f hf]
    exact Option.none_or.symm

theorem exists_object_of_ofJson {v : Json} (stands : ofJson v = .ok e) :
    ∃ ms, v = .object ms ∧ ReadFrom ms e := by
  cases v with
  | object ms => exact ⟨ms, rfl, readFrom_of_ofJson stands⟩
  | _ => cases stands

/-! ## Events in texts -/

theorem readMember_takes (levels : Nat) :
    Json.TakesMember levels (readMember levels) takeMember := by
  intro state key cs state' rest
  simp only [readMember, takeMember]
  cases Field.ofName? key with
  | none =>
    simp only [except_bind_eq_ok_iff]
    constructor
    · rintro ⟨cs', passed, ⟨v, r⟩, read, same⟩
      cases same
      exact ⟨v, ⟨cs', passed, read⟩, rfl⟩
    · rintro ⟨v, ⟨cs', passed, read⟩, same⟩
      cases same
      exact ⟨cs', passed, (v, rest), read, rfl⟩
  | some f =>
    dsimp only
    split
    · simp
    · simp only [except_bind_eq_ok_iff, except_map_eq_ok_iff]
      constructor
      · rintro ⟨cs', passed, ⟨value, r⟩, read, same⟩
        cases same
        obtain ⟨v, read, taken⟩ := Kind.readField_eq_ok_iff.1 read
        exact ⟨v, ⟨cs', passed, read⟩, value, taken, rfl⟩
      · rintro ⟨v, ⟨cs', passed, read⟩, value, taken, same⟩
        cases same
        exact ⟨cs', passed, (value, rest), Kind.readField_eq_ok_iff.2 ⟨v, read, taken⟩, rfl⟩

theorem finish_eq_ok_iff {head : Head} {cs rest : List Char} :
    finish levels head cs = .ok (e, rest) ↔
      ∃ v, Json.finish levels head cs = .ok (v, rest) ∧ ofJson v = .ok e := by
  by_cases object : head = .openObject
  · subst object
    cases levels with
    | zero => exact ⟨fun absurd => (nomatch absurd), fun ⟨_, absurd, _⟩ => (nomatch absurd)⟩
    | succ levels =>
      rw [Json.finish_openObject]
      simp only [finish, except_bind_eq_ok_iff, except_map_eq_ok_iff]
      constructor
      · rintro ⟨⟨⟨given, kept⟩, cs'⟩, read, e', made, same⟩
        cases same
        obtain ⟨ms, taken, collected⟩ := Json.exists_of_foldMembers (readMember_takes levels) read
        refine ⟨.object ms, ⟨_, collected [], by simp⟩, ?_⟩
        simp only [ofJson, taken, bind, Except.bind, made]
      · rintro ⟨v, ⟨⟨all, cs'⟩, collected, same⟩, stands⟩
        cases same
        obtain ⟨ms, rfl, later⟩ := Json.foldMembers_of_collect (readMember_takes levels) collected
        simp only [List.append_nil, List.reverse_reverse, ofJson, except_bind_eq_ok_iff] at stands
        obtain ⟨⟨given, kept⟩, taken, made⟩ := stands
        exact ⟨_, later _ _ taken, e, made, rfl⟩
  · constructor
    · intro read
      cases levels <;> cases head <;> first | exact absurd rfl object | cases read
    · rintro ⟨v, read, stands⟩
      obtain ⟨ms, rfl, -⟩ := exists_object_of_ofJson stands
      exact absurd (Json.finish_head _ _ _ _ read).symm object

/-- An event is read from a text just if the text holds a value that stands for the event. -/
theorem parse_eq_ok_iff {s : String} : parse s = .ok e ↔
    ∃ v, Json.readAll (Json.readValue Json.maxLevels) s.toList = .ok v ∧ ofJson v = .ok e := by
  simp only [parse, Json.readAll_eq_ok_iff, readPart, Json.readValue, except_bind_eq_ok_iff,
    finish_eq_ok_iff]
  constructor
  · rintro ⟨rest, ⟨h, front, v, read, stands⟩, done⟩
    exact ⟨v, ⟨rest, ⟨h, front, read⟩, done⟩, stands⟩
  · rintro ⟨v, ⟨rest, ⟨h, front, read⟩, done⟩, stands⟩
    exact ⟨rest, ⟨h, front, v, read, stands⟩, done⟩

end Event

end IssueIntake
