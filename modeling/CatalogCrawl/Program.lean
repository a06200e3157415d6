import CatalogCrawl.Catalog.Client
import CatalogCrawl.Config.Layers
import CatalogCrawl.Crawl.Run
import CatalogCrawl.Disk.StoreFile
import CatalogCrawl.Log.Line
import CatalogCrawl.Store.Report

/-! # The program

One invocation as a function: from the command line, the environment, the disk and the network to
the exit code, what is written and the disk it leaves. The options and the summary, which a crawl
also prints in full at the debug level, are not among what is written. -/

namespace CatalogCrawl

namespace Program

structure Invocation where
  words : List String
  environment : Environment
  disk : Disk
  network : Network

structure Outcome where
  exitCode : Nat
  stdout : String := ""
  stderr : String := ""
  disk : Disk
  /-- The requests that reached a server. -/
  requests : List Request := []

/-- The working directory as a path. -/
def workingDir (d : Disk) : String := "/" ++ "/".intercalate d.cwd

/-- Whether a variable is set to a text that is not empty. -/
def isSet (env : Environment) (name : String) : Bool :=
  match env.get? name with
  | some v => !v.isEmpty
  | none => false

/-- Whether colours are asked for, though no terminal is there. -/
def forcesColor (env : Environment) : Bool :=
  match env.get? "CLICOLOR_FORCE" with
  | some v => v ≠ "0"
  | none => false

/-- Whether log lines keep escape sequences, though no terminal is there. -/
def keepsEscapes (env : Environment) (toFile : Bool) : Bool :=
  match env.get? "RUST_LOG_STYLE" with
  | some "always" => true
  | some "never" => false
  | _ => !toFile && !isSet env "NO_COLOR" && isSet env "CLICOLOR_FORCE"

/-- Where log lines go. -/
structure Sink where
  style : Log.Style
  /-- Warnings about the log filter, which come first. -/
  warnings : String
  /-- Whether the report is coloured. -/
  colored : Bool

/-- Sets up the log as the environment and the options say. A log file is held open from then on.
Warnings about the filter are written even if it cannot be opened. -/
def openSink (env : Environment) (o : Options) (d : Disk) :
    Except (String × Failure) (Sink × Disk) :=
  let (filter, warnings) := match env.get? "RUST_LOG" with
    | some spec => Log.Filter.parse spec
    | none => ({}, [])
  let filter := filter.set none (.level .warn)
  let filter := filter.set (some Log.programName) (.level (if o.verbose then .debug else .info))
  let warnings := String.join (warnings.map (· ++ "\n"))
  match o.logFile with
  | none =>
    let colored := forcesColor env
    .ok (⟨{ filter, colored, raw := keepsEscapes env false }, warnings, colored⟩, d)
  | some path =>
    match d.hold path with
    | .error e => .error (warnings, .during s!"open log file {path}" (.os e))
    | .ok d => .ok (⟨{ filter, raw := keepsEscapes env true }, warnings, false⟩, d)

/-- Says how a crawl ended. -/
def announce (summary : Crawl.Summary) (w : World) : World :=
  let failed := ", ".intercalate (summary.failedStages.map (·.text))
  let w := if summary.failedStages.isEmpty then w else
    Logged.warn .command s!"Finished with failed stages: {failed}" w
  Logged.info .command s!"Crawl finished: {summary.crawled} new apps this run" w

/-- Crawls. -/
def crawl (o : Options) (net : Network) (w : World) : Except Failure Unit × World :=
  let w := Logged.info .command "Starting crawl ..." w
  match Client.ofUrl o.catalogUrl with
  | .error e => (.error e, w)
  | .ok client =>
    match Crawl.run (client.catalog net) o w with
    | (.error e, w) => (.error e, w)
    | (.ok summary, w) => (.ok (), announce summary w)

/-- Writes the export. -/
def save (o : Options) (w : World) : Except Failure Unit × World :=
  let (r, w) := w.exportTo o.exportFilter o.exportPath
  (r.map fun _ => (), w)

/-- Reports on the store. -/
def status (colored : Bool) (s : Store) : Except Failure String :=
  match StatusReport.ofStore s with
  | .error e => .error (.store e)
  | .ok report => .ok (report.text colored)

/-- Carries out a command, and gives what it prints. -/
def perform (command : Command) (o : Options) (sink : Sink) (net : Network) (w : World) :
    Except Failure String × World :=
  match command with
  | .run =>
    let (r, w) := crawl o net w
    (r.map fun _ => "", w)
  | .save =>
    let (r, w) := save o w
    (r.map fun _ => "", w)
  | .status => (status sink.colored w.store, w)

/-- The end of an invocation: a failure is logged last. -/
def finish (sink : Sink) (requests : List Request) : Except Failure String × World → Outcome
  | (.ok stdout, w) =>
    { exitCode := 0, stdout, stderr := sink.warnings ++ sink.style.render w.log, disk := w.disk,
      requests }
  | (.error e, w) =>
    let w := Logged.error .program e.chain w
    { exitCode := 1, stderr := sink.warnings ++ sink.style.render w.log, disk := w.disk, requests }

/-- Opens the store and carries out the command. -/
def execute (command : Command) (o : Options) (sink : Sink) (net : Network) (d : Disk) : Outcome :=
  let w : World :=
    { store := .empty, budget := { limit := o.maxApps }, style := sink.style, disk := d }
  match o.validate with
  | .error e => finish sink [] (.error (.during "invalid configuration" e.failure), w)
  | .ok () =>
    let path := o.store
    match d.openStore path with
    | (.error e, disk) =>
      finish sink [] (.error (.during s!"cannot open crawl store {path}" e), { w with disk })
    | (.ok store, disk) =>
      let (result, w) := perform command o sink net { w with store, disk }
      let requests := match Client.ofUrl o.catalogUrl with
        | .ok client => client.reached net (w.calls.map (·.2))
        | .error _ => []
      finish sink requests (result, { w with disk := w.disk.saveStore path w.store })

/-- Runs the program. -/
def run (i : Invocation) : Outcome :=
  match Arguments.parse i.words with
  | .error .help => { exitCode := 0, disk := i.disk }
  | .error _ => { exitCode := 2, disk := i.disk }
  | .ok (command, arguments) =>
    match Config.build i.disk (workingDir i.disk) i.environment arguments with
    | .error e => { exitCode := 1, stderr := s!"error: {e.chain}\n", disk := i.disk }
    | .ok (o, env) =>
      match openSink env o i.disk with
      | .error (warnings, e) =>
        { exitCode := 1, stderr := s!"{warnings}error: {e.chain}\n", disk := i.disk }
      | .ok (sink, d) => execute command o sink i.network d

end Program

end CatalogCrawl
