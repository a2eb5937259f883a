import IssueIntake.Json.Scan
/-!
# Reading JSON

Reading goes from left to right and stops at the first fault. A value begins with its `Head`: a
scalar, or the bracket of an array or object. What expects a value of one kind looks at the head
alone, so a value of the wrong kind is reported before anything that follows it.

Arrays and objects nest at most as deep as a number of `levels` allows. Values that nobody asks
for are only passed over, and nest as deep as they like.
-/

namespace IssueIntake.Json

/-- How deep arrays and objects of a document may nest. -/
def maxLevels : Nat := 127

/-- The front of a value. -/
inductive Head
  | null
  | bool (value : Bool)
  | number (value : Number)
  | string (value : String)
  | openArray
  | openObject
  deriving DecidableEq, Repr

/-- What a message says is found. -/
def Head.found : Head → Found
  | null => .null
  | bool b => .bool b
  | number (.whole n) => .whole n
  | number (.double x) => .double x
  | string s => .string s
  | openArray => .sequence
  | openObject => .map

/-- The front of a value that has been read. -/
def head : Json → Head
  | null => .null
  | bool b => .bool b
  | number n => .number n
  | string s => .string s
  | array _ => .openArray
  | object _ => .openObject

/-- Reads the front of a value: all of a scalar, the bracket of an array or object. -/
def readHead (cs : List Char) : Except ReadError (Head × List Char) :=
  match skipGap cs with
  | [] => .error .endInValue
  | c :: rest =>
    if c = 'n' then (word "ull".toList rest).map (Head.null, ·)
    else if c = 't' then (word "rue".toList rest).map (Head.bool true, ·)
    else if c = 'f' then (word "alse".toList rest).map (Head.bool false, ·)
    else if c = '-' then (readNumber true rest).map fun (n, rest) => (Head.number n, rest)
    else if c.isDigit then (readNumber false (c :: rest)).map fun (n, rest) => (Head.number n, rest)
    else if c = '\x22' then (readText rest).map fun (s, rest) => (Head.string s, rest)
    else if c = '[' then .ok (.openArray, rest)
    else if c = '\x7b' then .ok (.openObject, rest)
    else .error .expectedValue

/-! ## Items and members -/

/-- What comes next inside an array or object: nothing more, and what follows the closing
bracket; or one more item or member. -/
inductive Next
  | done (rest : List Char)
  | more (rest : List Char)

/-- The next item of an array, with the comma before it unless it is the first. -/
def nextItem (first : Bool) (cs : List Char) : Except ReadError Next :=
  match skipGap cs with
  | [] => .error .endInList
  | c :: rest =>
    if c = ']' then .ok (.done rest)
    else if first then .ok (.more (c :: rest))
    else if c = ',' then
      match skipGap rest with
      | [] => .error .endInValue
      | d :: rest => if d = ']' then .error .trailingComma else .ok (.more (d :: rest))
    else .error .expectedItemEnd

/-- The opening quote of a key. -/
def openKey : List Char → Except ReadError Next
  | [] => .error .endInValue
  | c :: rest => if c = '\x22' then .ok (.more rest) else .error .keyNotString

/-- The next member of an object up to the opening quote of its key, with the comma before it
unless it is the first. -/
def nextMember (first : Bool) (cs : List Char) : Except ReadError Next :=
  match skipGap cs with
  | [] => .error .endInObject
  | c :: rest =>
    if c = '\x7d' then .ok (.done rest)
    else if first then openKey (c :: rest)
    else if c = ',' then
      match skipGap rest with
      | '\x7d' :: _ => .error .trailingComma
      | cs => openKey cs
    else .error .expectedMemberEnd

/-- The colon after a key. -/
def colon (cs : List Char) : Except ReadError (List Char) :=
  match skipGap cs with
  | [] => .error .endInObject
  | c :: rest => if c = ':' then .ok rest else .error .expectedColon

/-- Reads the items up to the end of an array, each from where it begins, into a state. -/
def foldItems {σ : Type} (item : σ → List Char → Except ReadError (σ × List Char)) :
    Nat → Bool → σ → List Char → Except ReadError (σ × List Char)
  | 0, _, _, _ => .error .endInList
  | fuel + 1, first, s, cs => do
    match ← nextItem first cs with
    | .done rest => return (s, rest)
    | .more cs =>
      let (s, cs) ← item s cs
      foldItems item fuel false s cs

/-- Reads the members up to the end of an object, each from behind its key, into a state. -/
def foldMembers {σ : Type} (member : σ → String → List Char → Except ReadError (σ × List Char)) :
    Nat → Bool → σ → List Char → Except ReadError (σ × List Char)
  | 0, _, _, _ => .error .endInObject
  | fuel + 1, first, s, cs => do
    match ← nextMember first cs with
    | .done rest => return (s, rest)
    | .more cs =>
      let (key, cs) ← readText cs
      let (s, cs) ← member s key cs
      foldMembers member fuel false s cs

/-! ## Values -/

/-- Reads what is left of a value after its head. -/
def finish : Nat → Head → List Char → Except ReadError (Json × List Char)
  | _, .null, cs => .ok (null, cs)
  | _, .bool b, cs => .ok (bool b, cs)
  | _, .number n, cs => .ok (number n, cs)
  | _, .string s, cs => .ok (string s, cs)
  | 0, .openArray, _ | 0, .openObject, _ => .error .tooDeep
  | levels + 1, .openArray, cs => do
    let item (before : List Json) (cs : List Char) : Except ReadError (List Json × List Char) := do
      let (h, cs) ← readHead cs
      let (v, cs) ← finish levels h cs
      return (v :: before, cs)
    let (items, cs) ← foldItems item (cs.length + 1) true [] cs
    return (array items.reverse, cs)
  | levels + 1, .openObject, cs => do
    let member (before : List (String × Json)) (key : String) (cs : List Char) :
        Except ReadError (List (String × Json) × List Char) := do
      let (h, cs) ← readHead (← colon cs)
      let (v, cs) ← finish levels h cs
      return ((key, v) :: before, cs)
    let (members, cs) ← foldMembers member (cs.length + 1) true [] cs
    return (object members.reverse, cs)

/-- Reads a value. -/
def readValue (levels : Nat) (cs : List Char) : Except ReadError (Json × List Char) := do
  let (h, cs) ← readHead cs
  finish levels h cs

/-- Reads a text that holds one value and nothing else. -/
def readAll {α : Type} (read : List Char → Except ReadError (α × List Char)) (cs : List Char) :
    Except ReadError α := do
  let (a, rest) ← read cs
  if skipGap rest = [] then return a else throw .trailingCharacters

/-! ## Values nobody asks for -/

/-- Which bracket an array or object that is passed over waits for. -/
inductive Open
  | array
  | object
  deriving DecidableEq

/-- The next step through a value that is passed over: to read a value, or to go on in the
innermost open array or object, either at its start or after one of its items. -/
inductive Passing
  | value
  | inside (started : Bool)

/-- Passes over the key of a member and its colon. -/
def skipKey (cs : List Char) : Except ReadError (List Char) :=
  match skipGap cs with
  | [] => .error .endInObject
  | c :: rest =>
    if c = '\x22' then do colon (← skipText rest)
    else .error .keyNotString

/-- Passes over the rest of a value, of which the arrays and objects in `opened` are open, the
innermost first. -/
def skipLoop : Nat → Passing → List Open → List Char → Except ReadError (List Char)
  | 0, _, _, _ => .error .endInValue
  | fuel + 1, .value, opened, cs =>
    match skipGap cs with
    | [] => .error .endInValue
    | c :: rest => do
      if c = '[' then skipLoop fuel (.inside false) (.array :: opened) rest
      else if c = '\x7b' then skipLoop fuel (.inside false) (.object :: opened) rest
      else
        let rest ←
          if c = 'n' then word "ull".toList rest
          else if c = 't' then word "rue".toList rest
          else if c = 'f' then word "alse".toList rest
          else if c = '-' then skipNumber rest
          else if c.isDigit then skipNumber (c :: rest)
          else if c = '\x22' then skipText rest
          else throw .expectedValue
        skipLoop fuel (.inside true) opened rest
  | _ + 1, .inside _, [], cs => .ok cs
  | fuel + 1, .inside started, .array :: opened, cs =>
    match skipGap cs with
    | [] => .error .endInList
    | c :: rest =>
      if c = ']' then skipLoop fuel (.inside true) opened rest
      else if !started then skipLoop fuel .value (.array :: opened) (c :: rest)
      else if c = ',' then skipLoop fuel .value (.array :: opened) rest
      else .error .expectedItemEnd
  | fuel + 1, .inside started, .object :: opened, cs =>
    match skipGap cs with
    | [] => .error .endInObject
    | c :: rest =>
      if c = '\x7d' then skipLoop fuel (.inside true) opened rest
      else if !started then do skipLoop fuel .value (.object :: opened) (← skipKey (c :: rest))
      else if c = ',' then do skipLoop fuel .value (.object :: opened) (← skipKey rest)
      else .error .expectedMemberEnd

/-- Passes over a value. -/
def skipValue (cs : List Char) : Except ReadError (List Char) :=
  skipLoop (2 * cs.length + 2) .value [] cs

end IssueIntake.Json
