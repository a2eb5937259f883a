import IssueIntake.Command.Grammar
/-!
# Reading a command line

The words of a command line are read from left to right, by the grammar of what has come before.
Reading stops at the first word that does not fit, and where help or the version is asked for:
whatever stands behind that is not looked at.
-/

namespace IssueIntake.Command

/-- Why a command line is not understood. -/
inductive Misuse
  | unexpected (word : String)
  | missingValue (option : String)
  | unwantedValue (option : String)
  | invalidValue (name value : String)
  | repeated (option : String)
  | missing (name : String)
  | noCommand
  deriving DecidableEq, Repr

/-- How a misuse is said. The words stand in place of those that the command prints, which are not
modelled. -/
def Misuse.message : Misuse → String
  | unexpected word => "unexpected argument '" ++ word ++ "'"
  | missingValue option => "a value is required for '--" ++ option ++ "'"
  | unwantedValue option => "'--" ++ option ++ "' takes no value"
  | invalidValue name value => "invalid value '" ++ value ++ "' for '" ++ name ++ "'"
  | repeated option => "'--" ++ option ++ "' is given more than once"
  | missing name => "'" ++ name ++ "' is required"
  | noCommand => "a command is required"

/-- Why reading stops before the end. -/
inductive Stop
  | help
  | version
  | misuse (cause : Misuse)
  deriving DecidableEq, Repr

/-! ## Words -/

/-- A word by its form. -/
inductive Word
  /-- Two dashes: no options follow. -/
  | ending
  /-- An option, perhaps with a value behind an equals sign. -/
  | long (name : String) (value : Option String)
  /-- Letters behind one dash, of which the first is given. -/
  | short (letter : Char)
  /-- Anything else, also a lone dash and the empty word. -/
  | plain
  deriving DecidableEq, Repr

/-- The form of a word. -/
def Word.ofString (s : String) : Word :=
  match s.toList with
  | ['-', '-'] => ending
  | '-' :: '-' :: cs =>
    match cs.dropWhile (· != '=') with
    | [] => long (String.ofList cs) none
    | _ :: value => long (String.ofList (cs.takeWhile (· != '='))) (some (String.ofList value))
  | '-' :: c :: _ => short c
  | _ => plain

/-! ## What has been read -/

/-- What has been read of a command line. -/
structure Given where
  values : List (String × String)
  switches : List String
  operands : List String
  deriving DecidableEq, Repr

namespace Given

/-- Nothing. -/
def none : Given := ⟨[], [], []⟩

/-- The value of an option. -/
def value? (given : Given) (option : String) : Option String :=
  given.values.lookup option

/-- Whether an option without a value is there. -/
def has (given : Given) (option : String) : Bool :=
  given.switches.contains option

/-- With the value of an option, which cannot be given twice. -/
def addValue (given : Given) (option : String) (kind : ValueKind) (value : String) :
    Except Stop Given :=
  if !kind.accepts value then .error (.misuse (.invalidValue option value))
  else if (given.value? option).isSome then .error (.misuse (.repeated option))
  else .ok { given with values := (option, value) :: given.values }

/-- With an option that takes no value, which cannot be given twice. -/
def addSwitch (given : Given) (option : String) : Except Stop Given :=
  if given.has option then .error (.misuse (.repeated option))
  else .ok { given with switches := option :: given.switches }

/-- With the next operand, if the grammar has one more. -/
def addOperand (given : Given) (g : Grammar) (word : String) : Except Stop Given :=
  match g.operands[given.operands.length]? with
  | some (name, kind) =>
    if kind.accepts word then .ok { given with operands := given.operands ++ [word] }
    else .error (.misuse (.invalidValue name word))
  | Option.none => .error (.misuse (.unexpected word))

/-- Accepts what has everything that the grammar requires. -/
def check (given : Given) (g : Grammar) : Except Stop Unit :=
  match g.required.find? fun option => (given.value? option).isNone with
  | some option => .error (.misuse (.missing option))
  | Option.none =>
    match g.operands[given.operands.length]? with
    | some (name, _) => .error (.misuse (.missing name))
    | Option.none => .ok ()

end Given

/-- What is asked for behind the word for help: nothing, or one command, of which help is one. -/
def helpFor : List String → Stop
  | [] => .help
  | [word] =>
    if (Verb.ofName? word).isSome || word = "help" then .help else .misuse (.unexpected word)
  | word :: next :: _ =>
    .misuse (.unexpected (if (Verb.ofName? word).isSome || word = "help" then next else word))

namespace Grammar

/-- Reads words to the end, or up to the name of a command: then what follows it is left. -/
def read (g : Grammar) : Given → List String → Except Stop (Given × Option (Verb × List String))
  | given, [] => .ok (given, none)
  | given, word :: rest =>
    match Word.ofString word with
    | .ending => do return (← rest.foldlM (fun given word => given.addOperand g word) given, none)
    | .short 'h' => .error .help
    | .short 'V' => .error (if g.hasCommands then .version else .misuse (.unexpected word))
    | .short _ => .error (.misuse (.unexpected word))
    | .long name attached =>
      match g.kindOf? name, attached, rest with
      | some kind, some value, rest => do g.read (← given.addValue name kind value) rest
      | some kind, none, value :: rest =>
        match Word.ofString value with
        | .plain => do g.read (← given.addValue name kind value) rest
        | _ => .error (.misuse (.missingValue name))
      | some _, none, [] => .error (.misuse (.missingValue name))
      | none, some _, _ => .error (.misuse (.unwantedValue name))
      | none, none, rest =>
        if g.switches.contains name then do g.read (← given.addSwitch name) rest
        else if name = "help" then .error .help
        else if name = "version" && g.hasCommands then .error .version
        else .error (.misuse (.unexpected word))
    | .plain =>
      if g.hasCommands then
        match Verb.ofName? word with
        | some verb => .ok (given, some (verb, rest))
        | none => .error (if word = "help" then helpFor rest else .misuse (.unexpected word))
      else do g.read (← given.addOperand g word) rest

end Grammar

end IssueIntake.Command
