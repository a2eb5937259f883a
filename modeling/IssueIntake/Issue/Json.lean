import IssueIntake.Issue.Field
/-!
# Issues in JSON

An issue is written as an object with its fields in order, without those that are empty. It is
read from an object, whose unknown members are passed over, or from an array with the values in
the order of the fields. Either way only the title has to be there.
-/

namespace IssueIntake.Issue

open Json (Kind ReadError Head)

/-! ## Writing -/

/-- What is written for a field, if anything is. -/
def Field.toJson? (f : Field) (value : f.kind.Value) : Option Json :=
  match f.kind.toJson? value with
  | some (.string s) =>
    if s.isEmpty && f.kind == .text && !f.isAlways then none else some (.string s)
  | v => v

/-- The members of an issue's object. -/
def members (i : Issue) : List (String × Json) :=
  Field.all.filterMap fun f => (f.toJson? (i.get f)).map (f.name, ·)

/-- An issue in JSON. -/
def toJson (i : Issue) : Json :=
  .object i.members

/-- An issue in the compact form of JSON. -/
def text (i : Issue) : String :=
  i.toJson.text

/-! ## Reading -/

/-- How the form of an issue is called in messages. -/
def form : String := "struct Issue"

/-- The fault of an array that ends before the title. -/
def tooFewItems : ReadError :=
  .invalidLength 2 (form ++ " with " ++ toString Field.all.length ++ " elements")

/-- The issue with the given fields, if the title is among them. -/
def ofGiven? (missing : ReadError) (given : Given) : Except ReadError Issue :=
  if (given .title).isSome then .ok (ofGiven given) else .error missing

/-- Reads the member with a key, from the colon on. -/
def readMember (levels : Nat) (given : Given) (key : String) (cs : List Char) :
    Except ReadError (Given × List Char) :=
  match Field.ofName? key with
  | none => do return (given, ← Json.skipValue (← Json.colon cs))
  | some f =>
    if (given f).isSome then .error (.duplicateField f.name)
    else do
      let (value, cs) ← f.kind.readField levels (← Json.colon cs)
      return (given.set f value, cs)

/-- Reads the items of an array as the values of fields, up to the end of the array. -/
def readItems (levels : Nat) : List Field → Bool → Given → List Char →
    Except ReadError (Given × List Char)
  | [], _, given, cs =>
    match Json.skipGap cs with
    | [] => .error .endInList
    | ']' :: rest => .ok (given, rest)
    | ',' :: rest =>
      match Json.skipGap rest with
      | ']' :: _ => .error .trailingComma
      | _ => .error .trailingCharacters
    | _ => .error .trailingCharacters
  | f :: fields, first, given, cs => do
    match ← Json.nextItem first cs with
    | .done rest => return (given, rest)
    | .more cs =>
      let (value, cs) ← f.kind.readField levels cs
      readItems levels fields false (given.set f value) cs

/-- Reads what is left of an issue after its head. -/
def finish : Nat → Head → List Char → Except ReadError (Issue × List Char)
  | 0, .openArray, _ | 0, .openObject, _ => .error .tooDeep
  | levels + 1, .openArray, cs => do
    let (given, cs) ← readItems levels Field.all true Json.Given.none cs
    return (← ofGiven? tooFewItems given, cs)
  | levels + 1, .openObject, cs => do
    let (given, cs) ← Json.foldMembers (readMember levels) (cs.length + 1) true Json.Given.none cs
    return (← ofGiven? (.missingField "title") given, cs)
  | _, h, _ => .error (.invalidType h.found form)

/-- Reads an issue. -/
def readPart (levels : Nat) (cs : List Char) : Except ReadError (Issue × List Char) := do
  let (h, cs) ← Json.readHead cs
  finish levels h cs

/-- The issue in a text that holds nothing else. -/
def read (cs : List Char) : Except ReadError Issue :=
  Json.readAll (readPart Json.maxLevels) cs

/-- The issue in a text that holds nothing else. -/
def parse (s : String) : Except ReadError Issue :=
  read s.toList

/-! ## From JSON that has been read before -/

/-- Takes in one member. -/
def takeMember (given : Given) (member : String × Json) : Except ReadError Given :=
  match Field.ofName? member.1 with
  | none => .ok given
  | some f =>
    if (given f).isSome then .error (.duplicateField f.name)
    else (f.kind.ofJson member.2).map (given.set f ·)

/-- Takes in the items of an array as the values of fields. There may be fewer, but not more. -/
def takeItems : List Field → List Json → Given → Except ReadError Given
  | _, [], given => .ok given
  | [], extra, _ =>
    let count := Field.all.length
    .error (.invalidLength (count + extra.length) (toString count ++ " elements in sequence"))
  | f :: fields, v :: items, given => do
    takeItems fields items (given.set f (← f.kind.ofJson v))

/-- The issue that a value stands for. -/
def ofJson : Json → Except ReadError Issue
  | .array items => do
    ofGiven? tooFewItems (← takeItems Field.all items Json.Given.none)
  | .object members => do
    ofGiven? (.missingField "title") (← members.foldlM takeMember Json.Given.none)
  | v => .error (.invalidType v.head.found form)

end IssueIntake.Issue
