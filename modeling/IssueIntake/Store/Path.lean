import IssueIntake.Text.Bytes
import IssueIntake.Text.Pieces
/-!
# Paths

A path is a sequence of names with slashes between them; it is taken in bytes. A `Place` is where a
path leads, without detours: `..` stands in it only in front, where it leads out of the directory
one is in.
-/

namespace IssueIntake

/-- A name in a directory, as bytes. -/
abbrev FileName := List UInt8

/-- Where something lies: the names on the way to it. An absolute place begins with a slash, a
relative one with as many `..` as it takes to leave the directory one is in. -/
abbrev Place := List FileName

namespace Path

/-- The byte between names. -/
def slash : UInt8 := 47

/-- The name of the directory itself. -/
def here : FileName := [46]

/-- The name of the directory around a directory. -/
def outside : FileName := [46, 46]

/-- The most bytes that a name may have. -/
def nameLimit : Nat := 255

/-- The most bytes that a path may have. -/
def limit : Nat := 4095

/-- The names in a path, without those that stay where they are. -/
def names (path : List UInt8) : List FileName :=
  (Text.pieces slash path).filter fun name => !name.isEmpty && name != here

/-- Where a path starts: at the root, or in the directory one is in. -/
def start (path : List UInt8) : Place :=
  if path.head? = some slash then [[slash]] else []

/-- Whether a path says by its end that it leads to a directory. -/
def isFolder (path : List UInt8) : Bool :=
  match (Text.pieces slash path).getLast? with
  | some name => name.isEmpty || name == here
  | none => true

/-- Drops names that stay where they are from the end of a path. -/
def dropIdle (names : List (List Char)) : List (List Char) :=
  (names.reverse.dropWhile fun name => name.isEmpty || name == ['.']).reverse

/-- The path of the directory that holds a path, as it is written; empty for the directory one is
in. -/
def parent (path : String) : String :=
  let names := dropIdle (Text.pieces '/' path.toList)
  String.ofList (Text.join '/' (dropIdle names.dropLast))

end Path

namespace Place

/-- Whether a place is the root or a directory around the one that one is in. Such a place is
always there. -/
def leadsOut (place : Place) : Bool :=
  place.all fun name => name == [Path.slash] || name == Path.outside

/-- The directory around a directory. -/
def outer (place : Place) : Place :=
  if place = [[Path.slash]] then place
  else if leadsOut place then place ++ [Path.outside]
  else place.dropLast

/-- One name further. -/
def enter (place : Place) (name : FileName) : Place :=
  if name = Path.outside then place.outer else place ++ [name]

/-- The place beside another whose name has a suffix; none if that name is too long. -/
def beside (place : Place) (suffix : String) : Option Place :=
  match place.getLast? with
  | some name =>
    let name := name ++ Text.utf8 suffix
    if name.length ≤ Path.nameLimit then some (place.dropLast ++ [name]) else none
  | none => none

/-- A path that leads to a place, if its names are text. -/
def path? (place : Place) : Option String :=
  Text.ofUtf8? (match place with
    | [] => Path.here
    | [47] :: names => Path.slash :: Text.join Path.slash names
    | names => Text.join Path.slash names)

end Place

/-- The places on the way along a path, the one that it leads to included. -/
def Path.places (path : List UInt8) : List Place :=
  ((names path).foldl (fun (before, place) name =>
    (before ++ [Place.enter place name], Place.enter place name)) ([], start path)).1

end IssueIntake
