import IssueIntake.Store.Error
import IssueIntake.Store.Path
/-!
# Addresses of databases

A database is named by a path, or by a URI that begins with `file:`. A URI has a path, in which
bytes may be spelled with a percent sign and two hexadecimal digits, and behind a question mark
parameters that say how the database is opened. What follows `#` is dropped.
-/

namespace IssueIntake

/-- How a database is opened. -/
inductive OpenMode
  | readOnly
  | readWrite
  /-- To read and write, and made if it is not there. -/
  | create
  /-- In memory, whatever its name. -/
  | memory
  deriving DecidableEq, Repr

namespace OpenMode

/-- How a URI says it. -/
def name : OpenMode → String
  | readOnly => "ro"
  | readWrite => "rw"
  | create => "rwc"
  | memory => "memory"

/-- The mode with a name. -/
def ofName? (s : String) : Option OpenMode :=
  [readOnly, readWrite, create, memory].find? (·.name == s)

/-- How much a mode allows. -/
def rank : OpenMode → Nat
  | readOnly => 0
  | readWrite => 1
  | create => 2
  | memory => 3

/-- Whether a mode may be asked for where another holds: it must not allow more. -/
def mayBecome (mode asked : OpenMode) : Bool :=
  asked = memory || asked.rank ≤ mode.rank

end OpenMode

/-- What a database is opened by. -/
structure Address where
  /-- The path of the file, or the name in memory; without a name the database is a new one. -/
  name : List UInt8
  mode : OpenMode
  /-- Whether all that open a database in memory under the same name get the same one. -/
  isShared : Bool
  /-- Whether nothing ever changes the file, so that nothing beside it is looked at. -/
  isImmutable : Bool
  /-- The system that keeps the database. -/
  system : List UInt8
  deriving DecidableEq, Repr

namespace Address

/-- The system that keeps databases in files, if no other is asked for. -/
def defaultSystem : List UInt8 := Text.utf8 "unix"

/-- The system that keeps databases in memory. -/
def memorySystem : List UInt8 := Text.utf8 "memdb"

/-- The systems there are. -/
def systems : List (List UInt8) :=
  [defaultSystem, memorySystem] ++ ["unix-none", "unix-dotfile", "unix-excl"].map Text.utf8

/-- The database in the file at a path. -/
def ofName (name : List UInt8) : Address where
  name := name
  mode := .create
  isShared := false
  isImmutable := false
  system := defaultSystem

/-- How a URI begins. -/
def scheme : List UInt8 := Text.utf8 "file:"

/-- The value of a hexadecimal digit. -/
def hexValue? (b : UInt8) : Option UInt8 :=
  if 48 ≤ b && b ≤ 57 then some (b - 48)
  else if 97 ≤ b && b ≤ 102 then some (b - 87)
  else if 65 ≤ b && b ≤ 70 then some (b - 55)
  else none

/-- Bytes of which some may be spelled in digits. They end before one that is zero. -/
def unescape : List UInt8 → List UInt8
  | [] => []
  | 37 :: high :: low :: rest =>
    match hexValue? high, hexValue? low with
    | some h, some l =>
      if h = 0 && l = 0 then [] else (h * 16 + l) :: unescape rest
    | _, _ => 37 :: unescape (high :: low :: rest)
  | b :: rest => b :: unescape rest

/-- What stands before and behind the first occurrence of a byte; nothing behind, if there is
none. -/
def cutAt (sep : UInt8) (bytes : List UInt8) : List UInt8 × List UInt8 :=
  (bytes.takeWhile (· != sep), (bytes.dropWhile (· != sep)).tail)

/-- The parameters of a URI: names and values. A parameter without a name does not count. -/
def parameters (query : List UInt8) : List (List UInt8 × List UInt8) :=
  ((Text.pieces 38 query).map fun item =>
    let (name, value) := cutAt 61 item
    (unescape name, unescape value)).filter fun (name, _) => !name.isEmpty

/-- Whether a value says yes: `on`, `yes` or `true` in any case, or a number whose last eight bits
are not all zero. A number of more than 31 bits says no. -/
def saysYes (value : List UInt8) : Bool :=
  let isDigit (b : UInt8) : Bool := 48 ≤ b && b ≤ 57
  let lower (b : UInt8) : UInt8 := if 65 ≤ b && b ≤ 90 then b + 32 else b
  if (value.head?.map isDigit).getD false then
    let n := (value.takeWhile isDigit).foldl (fun n b => 10 * n + (b.toNat - 48)) 0
    n < 2147483648 && n % 256 != 0
  else ["on", "yes", "true"].any fun word => Text.utf8 word == value.map lower

/-- With a parameter of a URI heeded. -/
def heed (address : Address) : List UInt8 × List UInt8 → Except DatabaseError Address
  | (name, value) =>
    if name = Text.utf8 "vfs" then .ok { address with system := value }
    else if name = Text.utf8 "cache" then
      match Text.shown value with
      | "shared" => .ok { address with isShared := true }
      | "private" => .ok { address with isShared := false }
      | other => .error (.noSuchMode "cache" other)
    else if name = Text.utf8 "mode" then
      match OpenMode.ofName? (Text.shown value) with
      | none => .error (.noSuchMode "access" (Text.shown value))
      | some asked =>
        if address.mode.mayBecome asked then .ok { address with mode := asked }
        else .error (.modeNotAllowed asked.name)
    else .ok address

/-- What a URI leads to, without its scheme: the path with what follows. An authority before it
can only be the machine itself. -/
def withoutAuthority (bytes : List UInt8) : Except DatabaseError (List UInt8) :=
  match bytes with
  | 47 :: 47 :: rest =>
    let authority := rest.takeWhile (· != Path.slash)
    if authority.isEmpty || authority = Text.utf8 "localhost" then
      .ok (rest.dropWhile (· != Path.slash))
    else .error (.foreignAuthority (Text.shown authority))
  | bytes => .ok bytes

/-- The address that a URI spells, without its scheme. -/
def ofUri (bytes : List UInt8) : Except DatabaseError Address := do
  let bytes ← withoutAuthority bytes
  let (path, query) := cutAt 63 (cutAt 35 bytes).1
  let given := parameters query
  let address ← given.foldlM heed (ofName (unescape path))
  if !systems.contains address.system then throw (.noSuchSystem (Text.shown address.system))
  return { address with
    isImmutable := ((given.lookup (Text.utf8 "immutable")).map saysYes).getD false }

/-- The address that bytes spell. -/
def ofBytes (bytes : List UInt8) : Except DatabaseError Address :=
  if scheme.isPrefixOf bytes then ofUri (bytes.drop scheme.length) else .ok (ofName bytes)

/-- Whether a database has a name. -/
def isNamed (address : Address) : Bool :=
  !address.name.isEmpty

/-- Whether a database is kept in memory, as long as it is open. -/
def isInMemory (address : Address) : Bool :=
  !address.isNamed || address.name == Text.utf8 ":memory:" || address.mode == .memory ||
    address.system == memorySystem

/-- Whether all that open a database in memory under its name get the same one. The system for
databases in memory shares those whose name is an absolute path. -/
def isCommon (address : Address) : Bool :=
  address.isNamed && (address.isShared ||
    address.system == memorySystem && address.mode != .memory && address.name.length > 1 &&
      address.name.head? == some Path.slash)

/-- Whether a database cannot be written to. -/
def isReadOnly (address : Address) : Bool :=
  address.mode == .readOnly ||
    address.isImmutable && address.isNamed && address.name != Text.utf8 ":memory:" &&
      address.mode != .memory

end Address

end IssueIntake
