import Querysmith.Error
import Querysmith.Sql.Token
import Querysmith.Text.Quoted

namespace Querysmith

def occursIn (word : List Char) : List Char → Bool
  | [] => word.isEmpty
  | c :: rest => word.isPrefixOf (c :: rest) || occursIn word rest

def startsWith (word : String) (s : String) : Bool :=
  word.toList.isPrefixOf s.toList

def contains (word : String) (s : String) : Bool :=
  occursIn word.toList s.toList

/-- The paths whose journal is left alone. -/
def isMemoryPath (path : String) : Bool :=
  path = ":memory:" || path = "" || startsWith "file::memory:" path || contains "mode=memory" path

/-- Only files keep their rows when the database is closed. -/
inductive Medium where
  | memory
  | temporary
  | file
deriving DecidableEq

inductive Access where
  | readOnly
  | readWrite
  | create
  | memory
deriving DecidableEq

def Access.ofName? (s : String) : Option Access :=
  match s with
  | "ro" => some .readOnly
  | "rw" => some .readWrite
  | "rwc" => some .create
  | "memory" => some .memory
  | _ => none

/-- A file system by its name. Only the last of them keeps its files in memory. -/
def fileSystems : List String :=
  ["unix", "unix-none", "unix-dotfile", "unix-excl", "memdb"]

structure Location where
  name : List Char
  access : Access
  fileSystem : String

namespace Location

def decoded : List Char → List Char
  | '%' :: a :: b :: rest =>
      if Sql.isHexDigit a && Sql.isHexDigit b then
        Char.ofNat (Sql.hexNumber [a, b]) :: decoded rest
      else '%' :: decoded (a :: b :: rest)
  | c :: rest => c :: decoded rest
  | [] => []

def part (cs : List Char) : List Char :=
  (decoded cs).takeWhile (· ≠ '\x00')

def settings (query : List Char) : List (String × String) :=
  let pairs := (query.splitOn '&').map fun s =>
    (String.ofList (part (s.takeWhile (· ≠ '='))),
      String.ofList (part ((s.dropWhile (· ≠ '=')).drop 1)))
  pairs.filter fun s => s.1 ≠ ""

/-- Of several settings of one name the last counts, and all of them have to be known. -/
def set (l : Location) : List (String × String) → Except OpeningFault Location
  | [] =>
      if l.fileSystem ∈ fileSystems then .ok l else .error (.noSuchFileSystem l.fileSystem)
  | ("vfs", s) :: rest => { l with fileSystem := s }.set rest
  | ("cache", s) :: rest =>
      if s = "shared" ∨ s = "private" then l.set rest else .error (.noSuchMode "cache" s)
  | ("mode", s) :: rest =>
      match Access.ofName? s with
      | some access => { l with access := access }.set rest
      | none => .error (.noSuchMode "access" s)
  | _ :: rest => l.set rest

def withoutHost (cs : List Char) : Except OpeningFault (List Char) :=
  match cs with
  | '/' :: '/' :: rest =>
      let host := String.ofList (rest.takeWhile (· ≠ '/'))
      if host = "" ∨ host = "localhost" then .ok (rest.dropWhile (· ≠ '/'))
      else .error (.invalidAuthority host)
  | cs => .ok cs

def ofName (name : List Char) : Location :=
  ⟨name, .create, "unix"⟩

def ofUri (uri : List Char) : Except OpeningFault Location := do
  let uri := (← withoutHost uri).takeWhile (· ≠ '#')
  (ofName (part (uri.takeWhile (· ≠ '?')))).set (settings ((uri.dropWhile (· ≠ '?')).drop 1))

def ofPath (path : String) : Except OpeningFault Location :=
  if path.contains '\x00' then .error (.zeroInPath path)
  else if startsWith "file:" path then ofUri (path.toList.drop 5)
  else .ok (ofName path.toList)

def medium (l : Location) : Medium :=
  if l.access = .memory ∨ l.fileSystem = "memdb" ∨ l.name = ":memory:".toList then .memory
  else if l.name = [] then .temporary
  else .file

def checkAccess (path : String) (l : Location) : Except OpeningFault Medium :=
  match l.medium, l.access with
  | .file, .readOnly | .file, .readWrite => .error (.cannotOpen path)
  | _, .readOnly => .error .readOnly
  | m, _ => .ok m

theorem checkAccess_ofName (path : String) (name : List Char) :
    checkAccess path (ofName name) = .ok (ofName name).medium := by
  cases h : (ofName name).medium with
  | memory | temporary | file =>
      rw [checkAccess, h]
      rfl

end Location

def Medium.ofPath (path : String) : Except OpeningFault Medium :=
  (Location.ofPath path).bind (Location.checkAccess path)

theorem Medium.ofPath_of_zero {path : String} (h : '\x00' ∈ path.toList) :
    ofPath path = .error (.zeroInPath path) := by
  rw [ofPath, Location.ofPath, String.contains_char_eq, decide_eq_true h]
  rfl

theorem Medium.ofPath_of_plain {path : String} (hzero : '\x00' ∉ path.toList)
    (hfile : startsWith "file:" path = false) :
    ofPath path = .ok (Location.ofName path.toList).medium := by
  have hlocation : Location.ofPath path = .ok (Location.ofName path.toList) := by
    rw [Location.ofPath, String.contains_char_eq, decide_eq_false hzero, hfile]
    rfl
  rw [ofPath, hlocation]
  exact Location.checkAccess_ofName path path.toList

/-- The mode of the journal after a database was opened. Only that of a file can be changed. -/
def Medium.journalMode (path : String) : Medium → String
  | memory => "memory"
  | temporary => "delete"
  | file => if isMemoryPath path then "delete" else "wal"

def connectionText (path : String) : String :=
  "SqliteConnection \x7b path: " ++ Text.quoted path ++ ", .. \x7d"

end Querysmith
