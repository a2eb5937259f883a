import IssueIntake.Store.Path
import IssueIntake.Store.Tables
/-!
# Files

A directory tree in which some files are databases. Paths are followed name by name, so that `..`
leads out of the directory that has been reached. `read` gives the content of a file, and
`makeParent` makes the directories that a path needs.
-/

namespace IssueIntake

/-- What lies at a place. -/
inductive Node
  | directory
  | file (content : List UInt8)
  | database (tables : Tables)
  deriving DecidableEq, Repr

/-- A directory tree, and the databases in memory that all who know their name share. -/
structure Files where
  nodes : List (Place × Node)
  /-- Systems and names of databases in memory. They last as long as the process. -/
  inMemory : List ((List UInt8 × List UInt8) × Tables)

namespace Files

/-- A tree without files. -/
def empty : Files := ⟨[], []⟩

/-- What lies at a place. -/
def nodeAt (files : Files) (place : Place) : Option Node :=
  if place.leadsOut then some .directory else files.nodes.lookup place

/-- Without what lies at a place. -/
def remove (files : Files) (place : Place) : Files :=
  { files with nodes := files.nodes.filter (·.1 != place) }

/-- With a node at a place, instead of one that was there. -/
def put (files : Files) (place : Place) (node : Node) : Files :=
  { files with nodes := (place, node) :: (files.remove place).nodes }

/-- As another process finds them: without the databases in memory. -/
def forAnother (files : Files) : Files :=
  { files with inMemory := [] }

/-! ## Following paths -/

/-- One name further from a directory. -/
def enter (files : Files) (place : Place) (name : FileName) : Except FileError Place :=
  match files.nodeAt place with
  | none => .error .notFound
  | some .directory =>
    if name.length ≤ Path.nameLimit then .ok (place.enter name) else .error .nameTooLong
  | some _ => .error .notDirectory

/-- Where names lead to. Something need not lie there, but all before it are directories. -/
def follow (files : Files) (start : Place) (names : List FileName) : Except FileError Place :=
  names.foldlM files.enter start

/-- Whether names lead to a directory. -/
def isDirectory (files : Files) (start : Place) (names : List FileName) : Bool :=
  match files.follow start names with
  | .ok place => files.nodeAt place == some .directory
  | .error _ => false

/-- Refuses a path that cannot be passed on. -/
def checkPath (path : List UInt8) : Except FileError Unit :=
  if path.contains 0 then .error .holdsNul
  else if path.length ≤ Path.limit then .ok ()
  else .error .nameTooLong

/-- The content of the file at a path. The file of a database holds zero bytes, and nothing else
about it is known. -/
def read (files : Files) (path : String) : Except FileError (List UInt8) := do
  let bytes := Text.utf8 path
  checkPath bytes
  if bytes.isEmpty then throw .notFound
  match files.nodeAt (← files.follow (Path.start bytes) (Path.names bytes)) with
  | none => throw .notFound
  | some .directory => throw .isDirectory
  | some (.file content) => if Path.isFolder bytes then throw .notDirectory else return content
  | some (.database _) => if Path.isFolder bytes then throw .notDirectory else return [0]

/-! ## Making directories -/

/-- Makes the directory that names lead to, in one that is there. -/
def makeDirectory (start : Place) (names : List FileName) : Call Files FileError Unit :=
  fun files =>
    match files.follow start names with
    | .error e => (.error e, files)
    | .ok place =>
      match files.nodeAt place with
      | none => (.ok (), files.put place .directory)
      | some _ => (.error .alreadyExists, files)

/-- Makes the directory that names lead to, if it is not there. -/
def needDirectory (start : Place) (names : List FileName) : Call Files FileError Unit :=
  fun files =>
    match makeDirectory start names files with
    | (.error e, files) =>
      (if files.isDirectory start names then .ok () else .error e, files)
    | made => made

/-- Makes the directory that names lead to and those around it that are missing. The names are
given from the inside out. The directories around are made only if they are what is missing; they
stay even if the directory itself cannot be made. -/
def makeDirectories (start : Place) : List FileName → Call Files FileError Unit
  | [] => pure ()
  | name :: outer => fun files =>
    match needDirectory start (name :: outer).reverse files with
    | (.error .notFound, files) =>
      (do makeDirectories start outer
          needDirectory start (name :: outer).reverse : Call Files FileError Unit) files
    | made => made

/-- Makes the directory that holds a path, with all directories around it. -/
def makeParent (path : String) : Call Files FileError Unit := do
  let parent := Text.utf8 (Path.parent path)
  fun files => (checkPath parent, files)
  makeDirectories (Path.start parent) (Path.names parent).reverse

/-- With a node at a path, and the directories around it. -/
def add (path : String) (node : Node) (files : Files) : Files :=
  let bytes := Text.utf8 path
  let start := Path.start bytes
  let (_, files) := makeDirectories start (Path.names bytes).reverse.tail files
  match files.follow start (Path.names bytes) with
  | .ok place => files.put place node
  | .error _ => files

end Files

end IssueIntake
