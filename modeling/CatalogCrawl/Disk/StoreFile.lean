import CatalogCrawl.Disk.StoreRequest
import CatalogCrawl.Failure

/-! # Stores on disk

A store is a file. One that is not there is made, with the directories above it; an empty file
becomes an empty store; a file that holds anything else is refused. Beside a store stand its log,
the index of that log and a journal of unfinished changes, under names that follow from its own;
what is found there decides how far the store can be used. -/

namespace CatalogCrawl.Disk

/-! ## Places -/

/-- The longest path of a store, in bytes. -/
def maxStorePath : Nat := 512

/-- The longest ending of the names beside a store, in bytes. -/
def maxEnding : Nat := 8

/-- The bytes of the path of a place. -/
def pathSize (place : Place) : Nat :=
  place.foldl (fun size name => size + (name.utf8ByteSize + 1)) 0

/-- One step of a store path. What is not there can be passed, a file cannot. -/
def stepStore (d : Disk) (place : Place) (name : String) : Option Place :=
  if name = "." then some place
  else if name = ".." then some place.dropLast
  else match d.get? place with
    | some (.file _) => none
    | _ =>
      let next := place ++ [name]
      if maxName < name.utf8ByteSize || maxStorePath ≤ pathSize next then none else some next

/-- The place a store path leads to. -/
def storePlace? (d : Disk) (path : String) : Option Place := do
  let place ← (Path.names path).foldlM d.stepStore (if Path.isAbsolute path then [] else d.cwd)
  if place.isEmpty || maxStorePath < pathSize place + maxEnding then none else some place

/-- The place beside a file whose name has an ending more. -/
def beside (place : Place) (ending : String) : Place :=
  place.dropLast ++ [place.getLast?.getD "" ++ ending]

/-! ## Opening -/

/-- Where opening a store fails. -/
inductive OpenFault where
  /-- The file cannot be opened. -/
  | file
  /-- The store cannot be given a log, or what the file holds is no store. -/
  | log
  /-- The tables cannot be made, since nothing can be written. -/
  | schema
  /-- The tables cannot be made, since there can be no journal. -/
  | journal
  deriving DecidableEq, Repr

def OpenFault.failure (path : String) : OpenFault → Failure
  | .file => .during s!"open database {path}" (.rule "unable to open database file")
  | .log => .during "enable WAL" (.rule "file is not a database")
  | .schema => .during "create schema" (.rule "attempt to write a readonly database")
  | .journal => .during "create schema" (.rule "unable to open database file")

/-- What a file is as a store. -/
inductive Found where
  /-- It is empty. A single byte counts as nothing. -/
  | blank
  | store (s : Store)
  /-- It holds something else. -/
  | other

def Found.ofContent : Content → Found
  | .store s => .store s
  | .text t => if t.utf8ByteSize ≤ 1 then .blank else .other
  | .bytes bs => if bs.length ≤ 1 then .blank else .other

/-- The first byte of a file, if it is not empty. -/
def firstByte? : Content → Option Nat
  | .text t => (t.toList.head?.map Text.Utf8.bytes).bind List.head?
  | .bytes bs => bs.head?
  | .store _ => some 1

/-- Looks at the journal. One that is left from unfinished changes is done with and removed, unless
nothing can be written. -/
def settleJournal (r : StoreRequest) (place : Place) (found : Found) (d : Disk) :
    Except OpenFault Disk :=
  let journal := beside place "-journal"
  let guarded := r.sharing ≠ .unguarded
  if d.get? journal = some .dir || maxName < (journal.getLast?.getD "").utf8ByteSize then
    match found with
    | .blank => if guarded then .error .log else .error (if r.write then .journal else .schema)
    | _ => .error .log
  else match d.get? journal with
    | some (.file content) =>
      match found, firstByte? content with
      | _, none => .ok d
      | .blank, some _ => .ok (if r.write || !guarded then d.erase journal else d)
      | _, some b => if b = 0 then .ok d else if r.write then .ok (d.erase journal) else .error .log
    | _ => .ok d

/-- A store that cannot be written, if nothing need be. -/
def readable (access : Access) (s : Store) : Except OpenFault Store :=
  if s.isComplete then .ok { s with access } else .error .schema

/-- Opens the store in a file. -/
def attach (r : StoreRequest) (place : Place) (found : Found) (d : Disk) :
    Except OpenFault Store × Disk :=
  let keep (s : Store) (d : Disk) : Disk := d.set place (.file (.store s))
  let ready (s : Store) (d : Disk) : Except OpenFault Store × Disk := (.ok s, keep s d)
  let noIndex := r.sharing = .file && d.get? (beside place "-shm") = some .dir
  let guarded := r.sharing ≠ .unguarded
  if d.get? (beside place "-wal") = some .dir then (.error .log, d)
  else match found with
    | .other => (.error .log, d)
    | .blank =>
      if !r.write then (.error (if guarded then .log else .schema), d)
      else
        let d := d.erase (beside place "-journal")
        if noIndex then (.error .schema, keep {} d)
        else ready { Store.empty with logged := guarded } d
    | .store s =>
      if !guarded then
        if s.logged then (.error .log, d)
        else if r.write then ready s.opened d
        else (readable .readOnly s, d)
      else if !s.logged && !r.write then (.error .log, d)
      else
        let s := { s with logged := true }
        if noIndex then (readable .sealed s, keep s d)
        else if r.write then ready s.opened d
        else (readable .readOnly s, d)

/-- Opens the store in a file that never changes. -/
def attachFrozen : Found → Except OpenFault Store
  | .other => .error .log
  | .blank => .error .schema
  | .store s => readable .readOnly s

/-- Opens the file of a store, and the store in it. -/
def openFile (r : StoreRequest) (path : String) (d : Disk) : Except OpenFault Store × Disk :=
  match d.storePlace? path with
  | none => (.error .file, d)
  | some place =>
    if (r.model.any fun p => (d.resolve p).toOption.isNone) then (.error .file, d)
    else
      let proceed (content : Content) (d : Disk) : Except OpenFault Store × Disk :=
        let found := Found.ofContent content
        if r.frozen then (attachFrozen found, d)
        else match settleJournal r place found d with
          | .error e => (.error e, d)
          | .ok d => attach r place found d
      match d.get? place with
      | some .dir => (.error .file, d)
      | some (.file content) => proceed content d
      | none =>
        if r.create && d.get? place.dropLast = some .dir then
          proceed (.text "") (d.set place (.file (.text "")))
        else (.error .file, d)

/-- Makes the directory that a store is to be in, unless it is the working directory. -/
def makeStoreDir (path : String) (d : Disk) : Except Failure Unit × Disk :=
  match Path.parent? path with
  | none => (.ok (), d)
  | some parent =>
    if parent.isEmpty then (.ok (), d)
    else match d.makeDirs parent with
      | (.ok (), d) => (.ok (), d)
      | (.error e, d) => (.error (.during s!"create directory {parent}" (.os e)), d)

/-- Opens what a path asks for, if it can be read. -/
def openRequest (r : Option StoreRequest) (d : Disk) : Except OpenFault Store × Disk :=
  match r with
  | none => (.error .file, d)
  | some r =>
    match r.path with
    | some file => openFile r file d
    | none => (if r.write then .ok .empty else .error .schema, d)

/-- Opens a store. -/
def openStore (path : String) (d : Disk) : Except Failure Store × Disk :=
  match makeStoreDir path d with
  | (.error e, d) => (.error e, d)
  | (.ok (), d) =>
    let (result, d) := openRequest (StoreRequest.ofPath? path) d
    (result.mapError (·.failure path), d)

/-- Keeps a store that was opened, unless another file has taken its place. -/
def saveStore (path : String) (s : Store) (d : Disk) : Disk :=
  match ((StoreRequest.ofPath? path).bind (·.path)).bind d.storePlace? with
  | none => d
  | some place =>
    match d.get? place with
    | some (.file (.store _)) => d.set place (.file (.store { s with access := .full }))
    | _ => d

end CatalogCrawl.Disk
