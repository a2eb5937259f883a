import IssueIntake.Event.Basic
import IssueIntake.Issue.Json
/-!
# Events in JSON

An event is written as one object: its own fields, then what has happened as a tag `action` and
the issue. On reading, the event's own fields are checked as they come; all other members are kept
until the object has ended, and only then the tag and the issue are taken from them. What has
happened is also written by itself, as the payload of a stored event.
-/

namespace IssueIntake

open Json (Kind ReadError Head)

namespace Action

/-! ## What has happened -/

/-- The members that say what has happened. -/
def members : Action → List (String × Json)
  | created i => [("action", .string "created"), ("issue", i.toJson)]

/-- What has happened, as the payload of a stored event. -/
def payload (a : Action) : String :=
  (Json.object a.members).text

/-- Accepts the name of the only action there is. -/
def checkName (name : String) : Except ReadError Unit :=
  if name = "created" then .ok () else .error (.unknownVariant name "created")

/-- Checks a tag that is read from text. -/
def checkTag : Head → Except ReadError Unit
  | .string s => checkName s
  | h => .error (.invalidType h.found "variant identifier")

/-- Checks a tag that has been kept. It may also be the position of the action. -/
def checkKeptTag : Head → Except ReadError Unit
  | .number (.whole n) =>
    if n = 0 then .ok ()
    else if 0 < n then .error (.invalidValue (.whole n) "variant index 0 <= i < 1")
    else .error (.invalidType (.whole n) "variant identifier")
  | h => checkTag h

/-- Checks the tag among members that have been kept, of which one may have been seen before, and
gives the other members. -/
def withoutTag : Bool → List (String × Json) → Except ReadError (List (String × Json))
  | seen, [] => if seen then .ok [] else .error (.missingField "action")
  | seen, (key, value) :: rest =>
    if key = "action" then
      if seen then .error (.duplicateField "action")
      else do
        checkKeptTag value.head
        withoutTag true rest
    else do return (key, value) :: (← withoutTag seen rest)

/-- The issue among members that have been kept. -/
def issueOf : Option Issue → List (String × Json) → Except ReadError Action
  | some i, [] => .ok (created i)
  | none, [] => .error (.missingField "issue")
  | seen, (key, value) :: rest =>
    if key = "issue" then
      if seen.isSome then .error (.duplicateField "issue")
      else do issueOf (some (← Issue.ofJson value)) rest
    else issueOf seen rest

/-- What has happened according to members that have been kept. -/
def ofMembers (members : List (String × Json)) : Except ReadError Action := do
  issueOf none (← withoutTag false members)

/-- The issue as the only item of an array. -/
def ofItems : List Json → Except ReadError Action
  | [] => .error (.invalidLength 0 "struct variant IssueEventAction::Created with 1 element")
  | [v] => (Issue.ofJson v).map created
  | v :: more => do
    let _ ← Issue.ofJson v
    throw (.invalidLength (1 + more.length) "1 element in sequence")

/-- Reads the member with a key, from the colon on: checks a tag, and keeps everything else. -/
def readMember (levels : Nat) (state : Bool × List (String × Json)) (key : String)
    (cs : List Char) : Except ReadError ((Bool × List (String × Json)) × List Char) :=
  if key = "action" then
    if state.1 then .error (.duplicateField "action")
    else do
      let (h, cs) ← Json.readHead (← Json.colon cs)
      checkTag h
      return ((true, state.2), cs)
  else do
    let (v, cs) ← Json.readValue levels (← Json.colon cs)
    return ((state.1, (key, v) :: state.2), cs)

/-- Reads an item and keeps it. -/
def readItem (levels : Nat) (before : List Json) (cs : List Char) :
    Except ReadError (List Json × List Char) := do
  let (v, cs) ← Json.readValue levels cs
  return (v :: before, cs)

/-- Reads what is left of a payload after its head. It may also be an array of the tag and the
issue. -/
def finish : Nat → Head → List Char → Except ReadError (Action × List Char)
  | 0, .openArray, _ | 0, .openObject, _ => .error .tooDeep
  | levels + 1, .openObject, cs => do
    let ((seen, kept), cs) ←
      Json.foldMembers (readMember levels) (cs.length + 1) true (false, []) cs
    if !seen then throw (.missingField "action")
    return (← issueOf none kept.reverse, cs)
  | levels + 1, .openArray, cs => do
    match ← Json.nextItem true cs with
    | .done _ => throw (.missingField "action")
    | .more cs =>
      let (h, cs) ← Json.readHead cs
      checkTag h
      let (kept, cs) ← Json.foldItems (readItem levels) (cs.length + 1) false [] cs
      return (← ofItems kept.reverse, cs)
  | _, h, _ => .error (.invalidType h.found "internally tagged enum IssueEventAction")

/-- Reads a payload. -/
def readPart (levels : Nat) (cs : List Char) : Except ReadError (Action × List Char) := do
  let (h, cs) ← Json.readHead cs
  finish levels h cs

/-- What has happened according to the payload of a stored event. -/
def parse (s : String) : Except ReadError Action :=
  Json.readAll (readPart Json.maxLevels) s.toList

end Action

namespace Event

/-! ## Events -/

/-- A field of an event apart from what has happened. -/
inductive Field
  | schema
  | id
  | issueId
  | occurredAt
  | actor
  | comment
  deriving DecidableEq, Repr

namespace Field

/-- All fields, in the order in which they are written. -/
def all : List Field := [schema, id, issueId, occurredAt, actor, comment]

/-- The name under which a field is written. -/
def name : Field → String
  | schema => "schema"
  | id => "event_id"
  | issueId => "issue_id"
  | occurredAt => "occurred_at"
  | actor => "actor"
  | comment => "comment"

/-- What a field holds. -/
@[reducible] def kind : Field → Kind
  | schema | id | issueId | actor => .text
  | occurredAt => .moment
  | comment => .optionalText

/-- The field with a name. -/
def ofName? (s : String) : Option Field :=
  Json.fieldNamed? all name s

end Field

/-- The members of an event's object. -/
def members (e : Event) : List (String × Json) :=
  [("schema", .string e.schema), ("event_id", .string e.id.text), ("issue_id", .string e.issueId),
   ("occurred_at", Kind.momentJson e.occurredAt)] ++
  (if e.actor.isEmpty then [] else [("actor", .string e.actor)]) ++
  (e.comment.map fun c => ("comment", Json.string c)).toList ++ e.action.members

/-- An event in JSON. -/
def toJson (e : Event) : Json :=
  .object e.members

/-- An event in the compact form of JSON. -/
def text (e : Event) : String :=
  e.toJson.text

/-- The values of some of an event's own fields. -/
abbrev Given := Json.Given Field.kind

/-- How the form of an event is called in messages. -/
def form : String := "struct IssueEvent"

/-- A field that has to be there. -/
def required (given : Given) (f : Field) : Except ReadError f.kind.Value :=
  match given f with
  | some value => .ok value
  | none => .error (.missingField f.name)

/-- The event with the given fields, and what has happened according to the members kept. -/
def ofGiven (given : Given) (kept : List (String × Json)) : Except ReadError Event := do
  let id ← required given .id
  let issueId ← required given .issueId
  let occurredAt ← required given .occurredAt
  let action ← Action.ofMembers kept
  return {
    schema := (given .schema).getD currentSchema
    id := .given id
    issueId := issueId
    occurredAt := occurredAt
    actor := (given .actor).getD ""
    comment := (given .comment).getD none
    action := action }

/-- Reads the member with a key, from the colon on: a field of the event, or a member to keep. -/
def readMember (levels : Nat) (state : Given × List (String × Json)) (key : String)
    (cs : List Char) : Except ReadError ((Given × List (String × Json)) × List Char) :=
  match Field.ofName? key with
  | some f =>
    if (state.1 f).isSome then .error (.duplicateField f.name)
    else do
      let (value, cs) ← f.kind.readField levels (← Json.colon cs)
      return ((state.1.set f value, state.2), cs)
  | none => do
    let (v, cs) ← Json.readValue levels (← Json.colon cs)
    return ((state.1, (key, v) :: state.2), cs)

/-- Reads what is left of an event after its head. -/
def finish : Nat → Head → List Char → Except ReadError (Event × List Char)
  | 0, .openObject, _ => .error .tooDeep
  | levels + 1, .openObject, cs => do
    let ((given, kept), cs) ←
      Json.foldMembers (readMember levels) (cs.length + 1) true (Json.Given.none, []) cs
    return (← ofGiven given kept.reverse, cs)
  | _, h, _ => .error (.invalidType h.found form)

/-- Reads an event. -/
def readPart (levels : Nat) (cs : List Char) : Except ReadError (Event × List Char) := do
  let (h, cs) ← Json.readHead cs
  finish levels h cs

/-- The event in a text that holds nothing else. -/
def parse (s : String) : Except ReadError Event :=
  Json.readAll (readPart Json.maxLevels) s.toList

/-- Takes in one member that has been read before. -/
def takeMember (state : Given × List (String × Json)) (member : String × Json) :
    Except ReadError (Given × List (String × Json)) :=
  match Field.ofName? member.1 with
  | some f =>
    if (state.1 f).isSome then .error (.duplicateField f.name)
    else (f.kind.ofJson member.2).map fun value => (state.1.set f value, state.2)
  | none => .ok (state.1, member :: state.2)

/-- The event that a value stands for. -/
def ofJson : Json → Except ReadError Event
  | .object members => do
    let (given, kept) ← members.foldlM takeMember (Json.Given.none, [])
    ofGiven given kept.reverse
  | v => .error (.invalidType v.head.found form)

end Event

end IssueIntake
