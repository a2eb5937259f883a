import IssueIntake.Json.Value
import IssueIntake.Decimal.Shortest
/-!
# Writing JSON

The compact form without blanks, and the form with one item a line that people read.
-/

namespace IssueIntake.Json

/-- A character inside quotes: quote and backslash with a backslash before them, control
characters by their letter or number, all others as they are. -/
def escape (c : Char) : List Char :=
  if c = '\x22' then ['\\', '\x22']
  else if c = '\\' then ['\\', '\\']
  else if c = '\x08' then ['\\', 'b']
  else if c = '\x0c' then ['\\', 'f']
  else if c = '\n' then ['\\', 'n']
  else if c = '\x0d' then ['\\', 'r']
  else if c = '\t' then ['\\', 't']
  else if c.toNat < 32 then
    ['\\', 'u', '0', '0', Nat.digitChar (c.toNat / 16), Nat.digitChar (c.toNat % 16)]
  else [c]

/-- A text in quotes. -/
def quote (s : String) : List Char :=
  '\x22' :: s.toList.flatMap escape ++ ['\x22']

/-- A whole number. -/
def wholeChars (n : Int) : List Char :=
  (if n < 0 then ['-'] else []) ++ Nat.toDigits 10 n.natAbs

/-- A number. -/
def Number.chars : Number → List Char
  | whole n => wholeChars n
  | double x => x.chars

/-- A truth value. -/
def boolChars (b : Bool) : List Char :=
  (if b then "true" else "false").toList

mutual

/-- The compact form. -/
def chars : Json → List Char
  | null => "null".toList
  | bool b => boolChars b
  | number n => n.chars
  | string s => quote s
  | array items => '[' :: itemChars items
  | object members => '\x7b' :: memberChars members

/-- The items of an array up to its end. -/
def itemChars : List Json → List Char
  | [] => [']']
  | [v] => chars v ++ [']']
  | v :: vs => chars v ++ ',' :: itemChars vs

/-- The members of an object up to its end. -/
def memberChars : List (String × Json) → List Char
  | [] => ['\x7d']
  | [(k, v)] => quote k ++ ':' :: chars v ++ ['\x7d']
  | (k, v) :: rest => quote k ++ ':' :: chars v ++ ',' :: memberChars rest

end

/-- The compact form. -/
def text (v : Json) : String :=
  String.ofList (chars v)

/-- A new line, indented by two blanks for each level. -/
def newLine (level : Nat) : List Char :=
  '\n' :: List.replicate (2 * level) ' '

mutual

/-- The form with each item and member on a line of its own, indented below its parent. -/
def linesAt (level : Nat) : Json → List Char
  | array (v :: vs) =>
    '[' :: newLine (level + 1) ++ itemLines (level + 1) (v :: vs) ++ newLine level ++ [']']
  | object (m :: ms) =>
    '\x7b' :: newLine (level + 1) ++ memberLines (level + 1) (m :: ms) ++ newLine level ++ ['\x7d']
  | v => chars v

/-- The items of an array, each on its lines. -/
def itemLines (level : Nat) : List Json → List Char
  | [] => []
  | [v] => linesAt level v
  | v :: vs => linesAt level v ++ ',' :: newLine level ++ itemLines level vs

/-- The members of an object, each on its lines. -/
def memberLines (level : Nat) : List (String × Json) → List Char
  | [] => []
  | [(k, v)] => quote k ++ ':' :: ' ' :: linesAt level v
  | (k, v) :: rest =>
    quote k ++ ':' :: ' ' :: linesAt level v ++ ',' :: newLine level ++ memberLines level rest

end

/-- The form with each item and member on a line of its own. -/
def lines (v : Json) : String :=
  String.ofList (linesAt 0 v)

end IssueIntake.Json
