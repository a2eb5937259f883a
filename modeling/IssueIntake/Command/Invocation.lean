import IssueIntake.Command.Arguments
import IssueIntake.Ingest.Create
/-!
# What a command line asks for

A command line that fits the grammar stands for an `Invocation`: a request, the database it is made
of, the actor, and whether the answer is wanted in JSON. Database and actor are taken from the
option behind the command, else from the option before it, else from the environment, else they
have a default.
-/

namespace IssueIntake.Command

/-- What the environment says about the shared options. -/
structure Environment where
  db : Option String
  actor : Option String
  deriving DecidableEq, Repr

/-- What is asked for. -/
inductive Request
  /-- To name the namespace of all identifiers. -/
  | init (space : String)
  /-- To replace lists of custom names, and to show all names. -/
  | vocab (statuses types : Option String)
  /-- To take one issue in. -/
  | create (draft : Issue) (mode : Mode)
  /-- To take in the issues of a file, in the namespace of a token if one is given. -/
  | importIssues (source : String) (token : Option String) (mode : Mode)
  | showIssue (id : String)
  | dirty
  | events (id : String)
  deriving DecidableEq, Repr

/-- A request and what all requests have in common. -/
structure Invocation where
  db : String
  actor : String
  asJson : Bool
  request : Request
  deriving DecidableEq, Repr

/-- The database when none is named. -/
def defaultDb : String := ".quarry/quarry.db"

/-- The actor when none is named. -/
def defaultActor : String := "quarry"

/-! ## Requests -/

/-- The value of an option that has been read, or else a default. -/
def Given.valueOr (given : Given) (option default : String) : String :=
  (given.value? option).getD default

/-- How identifiers are treated. -/
def Given.mode (given : Given) : Mode :=
  if given.has "trusted" then .trusted else .strict

/-- The issue that is to be taken in. -/
def Given.draft (given : Given) (actor : String) : Issue :=
  { Issue.new (given.valueOr "id" "") (given.valueOr "title" "") with
    status := .ofName (given.valueOr "status" "open")
    issueType := .ofName (given.valueOr "type" "task")
    priority := ((given.value? "priority").bind int32?).getD 2
    description := given.valueOr "description" ""
    assignee := given.valueOr "assignee" ""
    createdBy := actor
    spaceToken := given.valueOr "id-prefix" "" }

/-- The request of a command with what has been read behind it. -/
def Given.request (given : Given) (actor : String) : Verb → Request
  | .init => .init (given.valueOr "prefix" "")
  | .vocab => .vocab (given.value? "statuses") (given.value? "types")
  | .create => .create (given.draft actor) given.mode
  | .importIssues =>
    .importIssues (given.operands.headD "") (given.value? "id-prefix") given.mode
  | .showIssue => .showIssue (given.operands.headD "")
  | .dirty => .dirty
  | .events => .events (given.operands.headD "")

/-! ## Invocations -/

/-- The value of a shared option, from the command, from before the command, from the environment
or by default. The environment is consulted on either side of the command where the option is not
given, and then has to be right. -/
def settle (option : String) (fromEnvironment : Option String) (default : String)
    (before behind : Given) : Except Stop String :=
  let kind := (sharedOptions.lookup option).getD .text
  let isGiven := (before.value? option).isSome && (behind.value? option).isSome
  match fromEnvironment.filter (!kind.accepts ·) with
  | some bad =>
    if isGiven then .ok (behind.valueOr option (before.valueOr option default))
    else .error (.misuse (.invalidValue option bad))
  | none =>
    .ok (behind.valueOr option (before.valueOr option (fromEnvironment.getD default)))

/-- What the words of a command line ask for. -/
def Invocation.ofWords (env : Environment) (words : List String) : Except Stop Invocation := do
  let (before, command) ← Grammar.root.read .none words
  let some (verb, rest) := command | throw (.misuse .noCommand)
  let (behind, _) ← verb.grammar.read .none rest
  behind.check verb.grammar
  let db ← settle "db" env.db defaultDb before behind
  let actor ← settle "actor" env.actor defaultActor before behind
  return {
    db := db
    actor := actor
    asJson := behind.has "json"
    request := behind.request actor verb }

end IssueIntake.Command
