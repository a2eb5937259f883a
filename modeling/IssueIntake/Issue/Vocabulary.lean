import IssueIntake.Issue.Status
/-!
# Vocabularies

The names of statuses and types that a store accepts: the built-in ones and those it has been
given.
-/

namespace IssueIntake

/-- The custom names of a store. -/
structure Vocabulary where
  statuses : List String
  types : List String
  deriving DecidableEq, Repr

/-- The name in its place among ascending names, unless it is there already. -/
def insertName (name : String) : List String → List String
  | [] => [name]
  | n :: rest =>
    if name < n then name :: n :: rest
    else if name = n then n :: rest
    else n :: insertName name rest

/-- The names in ascending order, each once. -/
def sortNames (names : List String) : List String :=
  names.foldr insertName []

namespace Vocabulary

/-- The built-in names, then the others in ascending order. -/
def listing (builtin custom : List String) : List String :=
  builtin ++ (sortNames custom).filter (!builtin.contains ·)

/-- The names of all accepted statuses. -/
def statusNames (v : Vocabulary) : List String :=
  listing (Status.builtin.map Status.name) v.statuses

/-- The names of all accepted types. -/
def typeNames (v : Vocabulary) : List String :=
  listing (IssueType.builtin.map IssueType.name) v.types

/-- Whether issues may have a status: a built-in or a custom one. -/
def allowsStatus (v : Vocabulary) (s : Status) : Bool :=
  s.isBuiltin || v.statuses.contains s.name

/-- Whether issues may have a type: a built-in or a custom one. -/
def allowsType (v : Vocabulary) (t : IssueType) : Bool :=
  t.isBuiltin || v.types.contains t.name

end Vocabulary

end IssueIntake
