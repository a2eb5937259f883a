/-!
# What a command line may hold

The commands, and for each of them a `Grammar`: the options that take a value, the options that do
not, and the operands, which stand by themselves. Two options belong to every command and may also
stand before its name.
-/

namespace IssueIntake.Command

/-- A command. -/
inductive Verb
  | init
  | vocab
  | create
  | importIssues
  | showIssue
  | dirty
  | events
  deriving DecidableEq, Repr

namespace Verb

/-- All commands, in the order in which they are explained. -/
def all : List Verb := [init, vocab, create, importIssues, showIssue, dirty, events]

/-- The name by which a command is called. -/
def name : Verb → String
  | init => "init"
  | vocab => "vocab"
  | create => "create"
  | importIssues => "import"
  | showIssue => "show"
  | dirty => "dirty"
  | events => "events"

/-- The command with a name. -/
def ofName? (s : String) : Option Verb :=
  all.find? (·.name == s)

end Verb

/-! ## Values -/

/-- The whole number of 32 bits that a text spells in decimal digits, with a sign before them or
without. -/
def int32? (s : String) : Option Int :=
  let natural (cs : List Char) : Option Nat :=
    if !cs.isEmpty && cs.all Char.isDigit then
      some (cs.foldl (fun n c => 10 * n + (c.toNat - '0'.toNat)) 0)
    else none
  let whole : Option Int :=
    match s.toList with
    | '-' :: cs => (natural cs).map fun n => -(n : Int)
    | '+' :: cs => (natural cs).map Int.ofNat
    | cs => (natural cs).map Int.ofNat
  whole.filter fun n => -2147483648 ≤ n && n ≤ 2147483647

/-- What a value has to be. -/
inductive ValueKind
  | text
  /-- A path, which cannot be empty. -/
  | path
  /-- A signed whole number of 32 bits. -/
  | int32
  deriving DecidableEq, Repr

/-- Whether a text is a value of a kind. -/
def ValueKind.accepts : ValueKind → String → Bool
  | text, _ => true
  | path, s => !s.isEmpty
  | int32, s => (int32? s).isSome

/-! ## Grammars -/

/-- What may follow a name on a command line. -/
structure Grammar where
  /-- The options that take a value. -/
  valued : List (String × ValueKind)
  /-- Those of them that have to be there. -/
  required : List String
  /-- The options that take no value. -/
  switches : List String
  /-- The operands, all of which have to be there. -/
  operands : List (String × ValueKind)
  /-- Whether commands may follow. -/
  hasCommands : Bool

/-- The options of every command. -/
def sharedOptions : List (String × ValueKind) :=
  [("db", .path), ("actor", .text)]

/-- What may stand before the name of a command. -/
def Grammar.root : Grammar where
  valued := sharedOptions
  required := []
  switches := []
  operands := []
  hasCommands := true

/-- A grammar of a command, which has the shared options and can answer in JSON. -/
def Grammar.withOptions (required : List String) (valued : List (String × ValueKind))
    (switches : List String) (operands : List (String × ValueKind)) : Grammar where
  valued := sharedOptions ++ valued
  required := required
  switches := switches ++ ["json"]
  operands := operands
  hasCommands := false

/-- What may follow the name of a command. -/
def Verb.grammar : Verb → Grammar
  | init => .withOptions ["prefix"] [("prefix", .text)] [] []
  | vocab => .withOptions [] [("statuses", .text), ("types", .text)] [] []
  | create =>
    .withOptions ["title"]
      [("title", .text), ("id", .text), ("status", .text), ("type", .text), ("priority", .int32),
       ("description", .text), ("assignee", .text), ("id-prefix", .text)]
      ["trusted"] []
  | importIssues => .withOptions [] [("id-prefix", .text)] ["trusted"] [("FILE", .path)]
  | showIssue | events => .withOptions [] [] [] [("ID", .text)]
  | dirty => .withOptions [] [] [] []

/-- What the value of an option has to be; none for what is no option with a value. -/
def Grammar.kindOf? (g : Grammar) (option : String) : Option ValueKind :=
  g.valued.lookup option

end IssueIntake.Command
