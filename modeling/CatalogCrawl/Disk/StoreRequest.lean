import CatalogCrawl.Text.Split
import CatalogCrawl.Url.Percent

/-! # What a store path asks for

A path names a file. The empty path and `:memory:` stand for stores that vanish when they are
closed. A path that starts with `file:` is read as a location: a path with percent escapes, and
parameters after a question mark that say how the file is to be used. -/

namespace CatalogCrawl.Disk

/-- How programs that use a store at the same time keep apart. -/
inductive Sharing where
  /-- By a file beside the store. -/
  | file
  /-- No other program may use the store. -/
  | alone
  /-- Not at all. Such a store cannot have a log beside it. -/
  | unguarded
  deriving DecidableEq, Repr

structure StoreRequest where
  /-- The file, if the store is to be kept. -/
  path : Option String
  /-- Whether a file that is not there is made. -/
  create : Bool := true
  write : Bool := true
  sharing : Sharing := .file
  /-- Whether the file is known never to change. -/
  frozen : Bool := false
  /-- A file whose permissions a new file gets. -/
  model : Option String := none
  deriving DecidableEq, Repr

namespace StoreRequest

/-! ## Locations -/

/-- A piece of a location without its escapes. An escaped zero byte ends it. -/
def plain (cs : List Char) : String :=
  let bytes := (Url.percentDecode cs).takeWhile (· ≠ 0)
  match Text.Utf8.decode bytes with
  | some cs => String.ofList cs
  | none => String.ofList (bytes.map fun b => if b < 0x80 then Char.ofNat b else '\ufffd')

/-- A parameter: its name and its value, which is empty if there is none. -/
def readParameter (cs : List Char) : String × String :=
  let name := cs.takeWhile (· ≠ '=')
  (plain name, plain (cs.drop (name.length + 1)))

/-- The path and the parameters of a location, given without its scheme. A host must be empty or
`localhost`. Parameters without a name do not count, nor does what follows a `#`. -/
def readLocation (cs : List Char) : Option (String × List (String × String)) :=
  let rest := match cs with
    | '/' :: '/' :: r =>
      let host := r.takeWhile (· ≠ '/')
      if host.isEmpty || host = "localhost".toList then some (r.drop host.length) else none
    | _ => some cs
  rest.map fun cs =>
    let cs := cs.takeWhile (· ≠ '#')
    let path := cs.takeWhile (· ≠ '?')
    let parameters := (Text.splitOn '&' (cs.drop (path.length + 1))).map readParameter
    (plain path, parameters.filter (!·.1.isEmpty))

/-! ## Parameters -/

/-- Whether the value of a parameter means yes: a number that is not 0 in its lowest byte,
or a word. -/
def isYes (s : String) : Bool :=
  let cs := s.toList
  if cs.head?.any Char.isDigit then
    let digits := (cs.takeWhile Char.isDigit).dropWhile (· = '0')
    let n := digits.foldl (fun n d => n * 10 + (d.toNat - 48)) 0
    n < 2147483648 && n % 256 ≠ 0
  else ["on", "yes", "true"].contains (String.ofList (cs.map Char.toLower))

/-- The value of the first parameter of a name. -/
def value? (parameters : List (String × String)) (name : String) : Option String :=
  (parameters.find? (·.1 = name)).map (·.2)

def isYesFor (parameters : List (String × String)) (name : String) : Bool :=
  ((value? parameters name).map isYes).getD false

/-- How far a store may be used. -/
inductive Mode where
  | memory
  | read
  | write
  | create
  deriving DecidableEq, Repr

def Mode.ofName? (s : String) : Option Mode :=
  if s = "memory" then some .memory
  else if s = "ro" then some .read
  else if s = "rw" then some .write
  else if s = "rwc" then some .create
  else none

/-- Whether a mode may follow another, which is so unless it allows more. Neither `memory` nor what
follows it is held to that. -/
def Mode.allows (now next : Mode) : Bool :=
  match now, next with
  | .memory, _ | _, .memory | .create, _ | .read, .read | .write, .write | .write, .read => true
  | _, _ => false

/-- Carries out the parameter `mode`, which may be given several times. -/
def readMode : Mode → List (String × String) → Option Mode
  | m, [] => some m
  | m, (name, value) :: rest =>
    if name = "mode" then
      match Mode.ofName? value with
      | some next => if m.allows next then readMode next rest else none
      | none => none
    else readMode m rest

/-- Whether every parameter `cache` has a value that there is. -/
def hasCaches (parameters : List (String × String)) : Bool :=
  parameters.all fun (name, value) => name ≠ "cache" || value = "shared" || value = "private"

/-- Where stores are kept. -/
inductive Medium where
  | files (sharing : Sharing)
  | memory
  deriving DecidableEq, Repr

/-- What the last parameter `vfs` asks for. -/
def readMedium (parameters : List (String × String)) : Option Medium :=
  match value? parameters.reverse "vfs" with
  | none | some "unix" => some (.files .file)
  | some "unix-excl" => some (.files .alone)
  | some "unix-none" | some "unix-dotfile" => some (.files .unguarded)
  | some "memdb" => some .memory
  | some _ => none

/-- The paths that stand for stores that are not kept. -/
def isTemporary (path : String) : Bool := path.isEmpty || path = ":memory:"

/-- The request of a location. -/
def ofLocation (path : String) (parameters : List (String × String)) : Option StoreRequest := do
  let medium ← readMedium parameters
  let mode ← readMode .create parameters
  if !hasCaches parameters then none
  else
    let frozen := isYesFor parameters "immutable"
    let write := mode ≠ .read
    if isTemporary path || mode = .memory then return { path := none, write }
    else match medium with
      | .memory => return { path := none, write := write && !frozen }
      | .files sharing =>
        return {
          path := some path
          create := mode = .create
          write
          sharing := if isYesFor parameters "nolock" then .unguarded else sharing
          frozen
          model := value? parameters "modeof" }

/-- What a path asks for, `none` if it cannot be read. -/
def ofPath? (path : String) : Option StoreRequest :=
  if path.toList.contains '\x00' then none
  else if "file:".toList.isPrefixOf path.toList then do
    let (path, parameters) ← readLocation (path.toList.drop 5)
    ofLocation path parameters
  else if isTemporary path then some { path := none }
  else some { path := some path }

end StoreRequest

end CatalogCrawl.Disk
