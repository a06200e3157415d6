import CatalogCrawl.Disk.Path
import CatalogCrawl.Keyed
import CatalogCrawl.Store.Basic
import CatalogCrawl.Text.Utf8

/-! # A file tree

Directories and files by their place under the root, and the operations of the file system on them.
A file holds text, bytes that are no text, or a store.

An operation fails only for what the tree shows. Left out are permissions, and writes that the
device refuses or breaks off, such as on a full disk: once its place is found, a write puts down all
it is given. -/

namespace CatalogCrawl

/-- Why a file operation failed. -/
inductive OsError where
  | notFound
  | alreadyExists
  | notDirectory
  | isDirectory
  | busy
  | nameTooLong
  | nulInPath
  | notText
  deriving DecidableEq, Repr

def OsError.message : OsError → String
  | .notFound => "No such file or directory (os error 2)"
  | .alreadyExists => "File exists (os error 17)"
  | .notDirectory => "Not a directory (os error 20)"
  | .isDirectory => "Is a directory (os error 21)"
  | .busy => "Device or resource busy (os error 16)"
  | .nameTooLong => "File name too long (os error 36)"
  | .nulInPath => "file name contained an unexpected NUL byte"
  | .notText => "stream did not contain valid UTF-8"

inductive Content where
  | text (s : String)
  | bytes (bs : List Nat)
  | store (s : Store)
  deriving DecidableEq

inductive Entry where
  | dir
  | file (content : Content)
  deriving DecidableEq

/-- A place in the tree: the names from the root on. -/
abbrev Place := List String

/-- The entries below the root, each place at most once, and the working directory. -/
structure Disk where
  cwd : Place
  entries : List (Place × Entry) := []
  /-- The place of the file that is held open, as long as it has one. -/
  held : Option Place := none

namespace Disk

/-- The entry at a place. The root is a directory. -/
def get? (d : Disk) (l : Place) : Option Entry :=
  if l.isEmpty then some .dir else (d.entries.find? (·.1 = l)).map (·.2)

/-- Puts an entry at a place. -/
def set (d : Disk) (l : Place) (e : Entry) : Disk :=
  { d with entries := Keyed.put Prod.fst (l, e) d.entries }

/-- Removes the entry at a place. A file that is held open is no longer anywhere then. -/
def erase (d : Disk) (l : Place) : Disk :=
  { d with
    entries := d.entries.filter (·.1 ≠ l)
    held := if d.held = some l then none else d.held }

/-- Moves a file, over what is at its new place. It stays held if it was. -/
def move (d : Disk) (l l' : Place) (content : Content) : Disk :=
  let d' := ((d.erase l).erase l').set l' (.file content)
  { d' with held := if d.held = some l then some l' else d'.held }

/-! ## Resolving paths -/

/-- The longest name and the longest path, in bytes. -/
def maxName : Nat := 255
def maxPath : Nat := 4095

/-- One step down or up from a directory, to another directory. -/
def enter (d : Disk) (base : Place) (name : String) : Except OsError Place :=
  if name = "." then .ok base
  else if name = ".." then .ok base.dropLast
  else if maxName < name.utf8ByteSize then .error .nameTooLong
  else match d.get? (base ++ [name]) with
    | some .dir => .ok (base ++ [name])
    | some (.file _) => .error .notDirectory
    | none => .error .notFound

/-- The last step of a path. -/
inductive Last where
  /-- The path has no component. -/
  | root
  /-- The last component is `.` or `..`. -/
  | dots (name : String)
  /-- A name, and whether a slash follows it. -/
  | name (name : String) (slash : Bool)
  deriving DecidableEq, Repr

def Last.ofName (name : String) (slash : Bool) : Last :=
  if name = "." || name = ".." then .dots name else .name name slash

/-- The directory that a path's last step starts from, and that step. -/
def locate (d : Disk) (p : String) : Except OsError (Place × Last) :=
  if p.toList.contains '\x00' then .error .nulInPath
  else if p.isEmpty then .error .notFound
  else if maxPath < p.utf8ByteSize then .error .nameTooLong
  else do
    let start := if Path.isAbsolute p then [] else d.cwd
    match (Path.names p).getLast? with
    | none => return (start, .root)
    | some last =>
      let base ← (Path.names p).dropLast.foldlM (d.enter ·) start
      return (base, .ofName last (p.toList.getLast? = some '/'))

/-- The place of an existing entry. -/
def resolve (d : Disk) (p : String) : Except OsError (Place × Entry) := do
  match ← d.locate p with
  | (base, .root) => return (base, .dir)
  | (base, .dots name) => return (← d.enter base name, .dir)
  | (base, .name name slash) =>
    if maxName < name.utf8ByteSize then .error .nameTooLong
    else match d.get? (base ++ [name]) with
      | none => .error .notFound
      | some .dir => return (base ++ [name], .dir)
      | some e => if slash then .error .notDirectory else return (base ++ [name], e)

def isDir (d : Disk) (p : String) : Bool :=
  match d.resolve p with
  | .ok (_, .dir) => true
  | _ => false

def isFile (d : Disk) (p : String) : Bool :=
  match d.resolve p with
  | .ok (_, .file _) => true
  | _ => false

/-! ## Operations -/

/-- Makes one directory. -/
def makeDir (d : Disk) (p : String) : Except OsError Disk := do
  match ← d.locate p with
  | (_, .root) => .error .alreadyExists
  | (_, .dots _) => .error .alreadyExists
  | (base, .name name _) =>
    if maxName < name.utf8ByteSize then .error .nameTooLong
    else match d.get? (base ++ [name]) with
      | some _ => .error .alreadyExists
      | none => return d.set (base ++ [name]) .dir

/-- Makes the first of the directories, making the next ones first where its parent is missing. -/
def makeDirsAux : List String → Disk → Except OsError Unit × Disk
  | [], d => (.ok (), d)
  | p :: rest, d =>
    match d.makeDir p with
    | .ok d' => (.ok (), d')
    | .error .alreadyExists => if d.isDir p then (.ok (), d) else (.error .alreadyExists, d)
    | .error .notFound =>
      match makeDirsAux rest d with
      | (.error e, d') => (.error e, d')
      | (.ok (), d') =>
        match d'.makeDir p with
        | .ok d'' => (.ok (), d'')
        | .error .alreadyExists => if d'.isDir p then (.ok (), d') else (.error .alreadyExists, d')
        | .error e => (.error e, d')
    | .error e => (.error e, d)

/-- Makes a directory and those above it. On failure some of them may have been made. -/
def makeDirs (d : Disk) (p : String) : Except OsError Unit × Disk :=
  makeDirsAux (Path.ancestors p) d

/-- The place that a file opened for writing has, whether it exists or not. -/
def openForWriting (d : Disk) (p : String) : Except OsError Place := do
  match ← d.locate p with
  | (_, .root) => .error .isDirectory
  | (_, .dots _) => .error .isDirectory
  | (base, .name name slash) =>
    if slash then .error .isDirectory
    else if maxName < name.utf8ByteSize then .error .nameTooLong
    else match d.get? (base ++ [name]) with
      | some .dir => .error .isDirectory
      | _ => return base ++ [name]

/-- Writes a file, over what it held. The whole content is written, or nothing is. -/
def write (d : Disk) (p : String) (content : Content) : Except OsError Disk := do
  return d.set (← d.openForWriting p) (.file content)

/-- Opens a file for appending and holds it open. A file that is not there is made. -/
def hold (d : Disk) (p : String) : Except OsError Disk := do
  let l ← d.openForWriting p
  let d := { d with held := some l }
  match d.get? l with
  | some _ => return d
  | none => return d.set l (.file (.text ""))

/-- Appends text to a file. -/
def append (d : Disk) (l : Place) (s : String) : Disk :=
  match d.get? l with
  | some (.file (.text t)) => d.set l (.file (.text (t ++ s)))
  | some (.file (.bytes bs)) => d.set l (.file (.bytes (bs ++ Text.Utf8.encode s.toList)))
  | _ => d

/-- Appends text to the file that is held open. -/
def appendHeld (d : Disk) (s : String) : Disk :=
  match d.held with
  | some l => d.append l s
  | none => d

/-- The text of a file. -/
def readText (d : Disk) (p : String) : Except OsError String := do
  match ← d.resolve p with
  | (_, .dir) => .error .isDirectory
  | (_, .file (.text s)) => return s
  | (_, .file _) => .error .notText

/-- Gives the file at the first path the second one, over a file that is there. -/
def rename (d : Disk) (source target : String) : Except OsError Disk := do
  let (base, last) ← d.locate source
  let (base', last') ← d.locate target
  match last, last' with
  | .name name _, .name name' slash' =>
    let l := base ++ [name]
    let l' := base' ++ [name']
    match d.get? l with
    | some (.file content) =>
      if maxName < name'.utf8ByteSize then .error .nameTooLong
      else if slash' then .error .notDirectory
      else if d.get? l' = some .dir then .error .isDirectory
      else return d.move l l' content
    | some .dir => .error .isDirectory
    | none => .error .notFound
  | _, _ => .error .busy

/-- Removes a file. -/
def removeFile (d : Disk) (p : String) : Except OsError Disk := do
  match ← d.resolve p with
  | (l, .file _) => return d.erase l
  | (_, .dir) => .error .isDirectory

/-- The entries below the working directory, by their places under it. -/
def tree (d : Disk) : List (Place × Entry) :=
  d.entries.filterMap fun (l, e) =>
    if d.cwd.isPrefixOf l && d.cwd.length < l.length then some (l.drop d.cwd.length, e) else none

end Disk

end CatalogCrawl
