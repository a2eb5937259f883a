import IssueIntake.Store.Address
import IssueIntake.Store.Files
/-!
# Opening databases

Opening a database makes the directories on the way to it, then the file, then the tables in it;
what has been made stays even if a later step fails. A file is taken for a new database if it has
no more than one byte. Beside the file of a database there may be a journal and a log that a writer
has left behind when it was stopped. They are dropped, since nothing in them belongs to the
database.
-/

namespace IssueIntake

/-- Where the tables of an open database are kept. -/
inductive Storage
  /-- In memory, for the one who has opened it. -/
  | own
  /-- In memory, under a name in a system. -/
  | common (system name : List UInt8)
  | file (place : Place)
  deriving DecidableEq, Repr

/-- An open database. -/
structure OpenDatabase where
  tables : Tables
  storage : Storage
  isReadOnly : Bool

namespace Files

/-! ## Databases in memory -/

/-- Opens a database in memory. -/
def openInMemory (address : Address) : Call Files DatabaseError OpenDatabase := fun files =>
  let key := (address.system, address.name)
  if address.isReadOnly then (.error .readOnly, files)
  else if address.isCommon then
    let tables := (files.inMemory.lookup key).getD .empty
    (.ok ⟨tables, .common key.1 key.2, false⟩,
      { files with inMemory := (key, tables) :: files.inMemory.filter (·.1 != key) })
  else (.ok ⟨.empty, .own, false⟩, files)

/-! ## Databases in files -/

/-- The most bytes that the path of a database may have. -/
def databasePathLimit : Nat := 480

/-- One name further on the way to a database. A `..` takes the name before it away, whatever lies
there. A name leads on where there is something or nothing, but not through a file. -/
def approach (files : Files) (place : Place) (name : FileName) : Option Place :=
  let next := place.enter name
  let length := (Text.join Path.slash next).length
  if name = Path.outside then some next
  else if databasePathLimit < length then none
  else
    match files.follow [] next with
    | .ok _ | .error .notFound => some next
    | .error _ => none

/-- The place of the file of a database. -/
def placeOf (files : Files) (name : List UInt8) : Option Place :=
  (Path.names name).foldlM files.approach (Path.start name)

/-- Opens the file of a database. If it is not there it is made, where that is allowed. -/
def openFile (mode : OpenMode) (place : Place) : Call Files Unit Unit := fun files =>
  match files.follow [] place with
  | .error _ => (.error (), files)
  | .ok _ =>
    match files.nodeAt place with
    | none =>
      if mode = .create then (.ok (), files.put place (.file [])) else (.error (), files)
    | some .directory => (if mode = .readOnly then .ok () else .error (), files)
    | some _ => (.ok (), files)

/-- Whether a file is taken for a new database. -/
def isBlank : Option Node → Bool
  | some (.file content) => content.length ≤ 1
  | _ => false

/-- Drops a journal that lies beside a database. One that begins with a zero byte has been settled
and stays. -/
def dropJournal (place : Place) (isReadOnly : Bool) : Call Files DatabaseError Unit := fun files =>
  let isNew := isBlank (files.nodeAt place)
  match place.beside "-journal" with
  | none => (.ok (), files)
  | some journal =>
    let dropped := files.remove journal
    match files.nodeAt journal with
    | none | some (.file []) => (.ok (), files)
    | some .directory => (if isNew then .ok () else .error .diskFault, files)
    | some (.file (first :: _)) =>
      if isNew then (.ok (), if isReadOnly then files else dropped)
      else if first = 0 then (.ok (), files)
      else if isReadOnly then (.error .readOnly, files)
      else (.ok (), dropped)
    | some (.database _) =>
      if isReadOnly then (if isNew then .ok () else .error .readOnly, files)
      else (.ok (), dropped)

/-- Drops a log that lies beside a database. -/
def dropLog (place : Place) (isReadOnly : Bool) : Call Files DatabaseError Unit := fun files =>
  let isNew := isBlank (files.nodeAt place)
  match place.beside "-wal" with
  | none => (.ok (), files)
  | some log =>
    match files.nodeAt log with
    | none | some (.file []) => (.ok (), files)
    | some .directory => (.error (if isNew then .diskFault else .cannotOpenBeside), files)
    | some _ => (.ok (), if isNew || !isReadOnly then files.remove log else files)

/-- Makes the tables of a new database. That takes a journal, which is dropped when it is done. -/
def makeTables (place : Place) : Call Files DatabaseError Tables := fun files =>
  match place.beside "-journal" with
  | none => (.error .cannotOpenBeside, files)
  | some journal =>
    match files.nodeAt journal with
    | some .directory => (.error .cannotOpenBeside, files)
    | _ => (.ok .empty, (files.remove journal).put place (.database .empty))

/-- The tables in a file. -/
def loadTables (place : Place) (isReadOnly : Bool) : Call Files DatabaseError Tables := fun files =>
  match files.nodeAt place with
  | some (.database tables) => (.ok tables, files)
  | some (.file content) =>
    if 1 < content.length then (.error .notDatabase, files)
    else if isReadOnly then (.error .readOnly, files)
    else makeTables place files
  | _ => (.error .diskFault, files)

/-- Opens the database in a file. -/
def openInFile (path : String) (address : Address) : Call Files DatabaseError OpenDatabase := do
  let some place ← .look (placeOf · address.name) | .fail (.cannotOpen path)
  if place = [[Path.slash]] then .fail (.cannotOpen path)
  (openFile address.mode place).mapError fun _ => .cannotOpen path
  if !address.isImmutable then
    dropJournal place address.isReadOnly
    dropLog place address.isReadOnly
  return ⟨← loadTables place address.isReadOnly, .file place, address.isReadOnly⟩

/-! ## All databases -/

/-- How many bytes of a text stand before its first U+0000. -/
def bytesBeforeNul (s : String) : Nat :=
  (String.ofList (s.toList.takeWhile (· != '\x00'))).utf8ByteSize

/-- Opens the database at a path, or at a URI, which is taken for a path as far as directories have
to be made. -/
def openDatabase (path : String) : Call Files StoreError OpenDatabase := do
  (makeParent path).mapError (.createDirectory (Path.parent path))
  if path.toList.contains '\x00' then .fail (.database (.nulInPath (bytesBeforeNul path)))
  match Address.ofBytes (Text.utf8 path) with
  | .error e => .fail (.database e)
  | .ok address =>
    if address.isInMemory then (openInMemory address).mapError .database
    else (openInFile path address).mapError .database

/-- Keeps the tables of an open database. -/
def keep (storage : Storage) (tables : Tables) (files : Files) : Files :=
  match storage with
  | .own => files
  | .common system name =>
    let key := (system, name)
    { files with inMemory := (key, tables) :: files.inMemory.filter (·.1 != key) }
  | .file place => files.put place (.database tables)

end Files

end IssueIntake
