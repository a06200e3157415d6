import CatalogCrawl.Program
import CatalogCrawl.Store.Codec

/-! # The command line program

Reads the part of the disk that an invocation is about, runs it, and writes what it changed. There
is no transport here, so no server can be reached. -/

namespace CatalogCrawl.CommandLine

/-- What is at a path, if anything is. -/
def readEntry (path : String) : IO (Option Entry) := do
  if ← ((← IO.currentDir) / path).isDir then return some .dir
  else try
    let bytes := (← IO.FS.readBinFile path).toList.map UInt8.toNat
    match Text.Utf8.decode bytes with
    | none => return some (.file (.bytes bytes))
    | some cs =>
      let text := String.ofList cs
      match Store.decode? text with
      | some s => return some (.file (.store s))
      | none => return some (.file (.text text))
  catch _ => return none

def placePath (place : Place) : String := "/" ++ "/".intercalate place

/-- Reads what is at a place and above it. -/
def readPlace (d : Disk) (place : Place) : IO Disk :=
  (List.range place.length).foldlM (fun d n => do
    let above := place.take (n + 1)
    match ← readEntry (placePath above) with
    | some e => return d.set above e
    | none => return d) d

/-- The place that the names in a path lead to. -/
def placeOf (d : Disk) (path : String) : Place :=
  (Path.names path).foldl
    (fun place name =>
      if name = "." then place else if name = ".." then place.dropLast else place ++ [name])
    (if Path.isAbsolute path then [] else d.cwd)

def readPaths (d : Disk) (paths : List String) : IO Disk :=
  paths.foldlM (fun d p => readPlace d (placeOf d p)) d

/-- The variables that the program asks for, and those that the file `.env` may speak of. -/
def readEnvironment (d : Disk) : IO Environment := do
  let text := match d.readText ".env" with
    | .ok t => t
    | .error _ => ""
  let isName (c : Char) : Bool := c.isAlphanum || c == '_'
  let words :=
    (Text.splitOn ' ' (text.toList.map fun c => if isName c then c else ' ')).map String.ofList
  let names :=
    ["APPCRAWL_CATALOG_URL", "APPCRAWL_REGION", "RUST_LOG", "RUST_LOG_STYLE", "CLICOLOR_FORCE",
      "NO_COLOR"]
  (names ++ words).foldlM (fun env name => do
    if name.isEmpty then return env
    match ← IO.getEnv name with
    | some v => return env.setIfUnset name v
    | none => return env) []

/-- The paths that a command with these options is about. -/
def pathsOf (o : Options) : List String :=
  let store := match Disk.StoreRequest.ofPath? o.store with
    | some r => r.model.toList ++ r.path.toList.flatMap fun p =>
      ["", "-wal", "-shm", "-journal"].map (p ++ ·)
    | none => []
  [o.outputDir, o.store, o.exportPath, Disk.tempPath o.exportPath] ++ store ++ o.logFile.toList

/-- The bytes of a file. -/
def contentBytes : Content → ByteArray
  | .text s => s.toUTF8
  | .bytes bs => ⟨(bs.map (·.toUInt8)).toArray⟩
  | .store s => s.encode.toUTF8

/-- Writes what differs between two states of the disk. -/
def writeChanges (before after : Disk) : IO Unit := do
  for (place, _) in before.entries do
    if (after.get? place).isNone then IO.FS.removeFile (placePath place)
  for (place, e) in after.entries do
    if before.get? place ≠ some e then
      match e with
      | .dir => IO.FS.createDirAll (placePath place)
      | .file c => IO.FS.writeBinFile (placePath place) (contentBytes c)

/-- Runs the program on the disk as it is. -/
def run (words : List String) : IO UInt32 := do
  let cwd := (← IO.currentDir).toString
  let names := Path.names cwd
  let d ← readPlace { cwd := names } names
  let d ← readPaths d [Config.defaultFile, ".env"]
  let environment ← readEnvironment d
  let d ← match Arguments.parse words with
    | .error _ => pure d
    | .ok (_, arguments) => do
      let d ← readPaths d arguments.config.toList
      match Config.build d cwd environment arguments with
      | .error _ => pure d
      | .ok (o, _) => readPaths d (pathsOf o)
  let network : Network := fun _ _ => (0, .unreachable)
  let outcome := Program.run { words, environment, disk := d, network }
  writeChanges d outcome.disk
  (← IO.getStderr).putStr outcome.stderr
  (← IO.getStdout).putStr outcome.stdout
  return outcome.exitCode.toUInt32

end CatalogCrawl.CommandLine

def main (args : List String) : IO UInt32 := CatalogCrawl.CommandLine.run args
