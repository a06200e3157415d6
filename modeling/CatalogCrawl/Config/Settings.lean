import CatalogCrawl.Options
import CatalogCrawl.Toml.Reader

/-! # Settings

What a config file may say: the table `settings`, each of whose fields replaces an option. Other
tables are passed over. -/

namespace CatalogCrawl

structure Settings where
  region : Option String := none
  language : Option String := none
  outputDir : Option String := none
  storePath : Option String := none
  onlyFree : Option Bool := none
  minInstalls : Option Int := none
  maxApps : Option Nat := none
  maxDepth : Option Nat := none
  batchSize : Option Nat := none
  seedWindow : Option Nat := none
  expandWindow : Option Nat := none
  backfillWindow : Option Nat := none
  pageSize : Option Nat := none
  catalogUrl : Option String := none
  requestTimeout : Option Nat := none
  categories : Option (List String) := none
  collections : Option (List String) := none
  verbose : Option Bool := none
  logFile : Option String := none
  progress : Option Bool := none
  deriving DecidableEq, Repr

namespace Settings

/-- The keys, in their order. -/
def keys : List String :=
  ["region", "language", "output", "db_path", "only_free", "only_min_installs", "max", "max_depth",
    "batch_size", "seed_window_ms", "expand_window_ms", "backfill_window_ms", "seed_page_size",
    "catalog_url", "request_timeout_secs", "categories", "collections", "verbose", "log",
    "progress"]

def text? : Toml → Option String
  | .str s => some s
  | _ => none

def flag? : Toml → Option Bool
  | .bool b => some b
  | _ => none

def signed? : Toml → Option Int
  | .int n => if -(Nat.pow 2 63 : Int) ≤ n ∧ n < (Nat.pow 2 63 : Int) then some n else none
  | _ => none

/-- A natural number of so many bits. -/
def natural? (bits : Nat) : Toml → Option Nat
  | .int n => if 0 ≤ n ∧ n < (Nat.pow 2 bits : Int) then some n.toNat else none
  | _ => none

def texts? : Toml → Option (List String)
  | .array items => items.mapM text?
  | _ => none

/-- The settings with one more field, `none` if there is no such field or it has another type. -/
def set (s : Settings) : String × Toml → Option Settings
  | ("region", v) => (text? v).map fun x => { s with region := some x }
  | ("language", v) => (text? v).map fun x => { s with language := some x }
  | ("output", v) => (text? v).map fun x => { s with outputDir := some x }
  | ("db_path", v) => (text? v).map fun x => { s with storePath := some x }
  | ("only_free", v) => (flag? v).map fun x => { s with onlyFree := some x }
  | ("only_min_installs", v) => (signed? v).map fun x => { s with minInstalls := some x }
  | ("max", v) => (natural? 64 v).map fun x => { s with maxApps := some x }
  | ("max_depth", v) => (natural? 32 v).map fun x => { s with maxDepth := some x }
  | ("batch_size", v) => (natural? 64 v).map fun x => { s with batchSize := some x }
  | ("seed_window_ms", v) => (natural? 64 v).map fun x => { s with seedWindow := some x }
  | ("expand_window_ms", v) => (natural? 64 v).map fun x => { s with expandWindow := some x }
  | ("backfill_window_ms", v) => (natural? 64 v).map fun x => { s with backfillWindow := some x }
  | ("seed_page_size", v) => (natural? 64 v).map fun x => { s with pageSize := some x }
  | ("catalog_url", v) => (text? v).map fun x => { s with catalogUrl := some x }
  | ("request_timeout_secs", v) => (natural? 64 v).map fun x => { s with requestTimeout := some x }
  | ("categories", v) => (texts? v).map fun x => { s with categories := some x }
  | ("collections", v) => (texts? v).map fun x => { s with collections := some x }
  | ("verbose", v) => (flag? v).map fun x => { s with verbose := some x }
  | ("log", v) => (text? v).map fun x => { s with logFile := some x }
  | ("progress", v) => (flag? v).map fun x => { s with progress := some x }
  | _ => none

/-- The settings of a table. An array with a value for every key will do as well. -/
def ofToml? : Toml → Option Settings
  | .table _ fields => fields.foldlM set {}
  | .array items => if items.length < keys.length then none else (keys.zip items).foldlM set {}
  | _ => none

mutual

/-- Whether the numbers of a value can be represented: whole ones in 128 bits, others as doubles. -/
def readable : Toml → Bool
  | .int n => -(Nat.pow 2 127 : Int) ≤ n && n < (Nat.pow 2 128 : Int)
  | .real x => x ≠ .beyond
  | .array items => readableItems items
  | .table _ fields => readableFields fields
  | .tables els => readableTables els
  | _ => true

def readableItems : List Toml → Bool
  | [] => true
  | v :: vs => readable v && readableItems vs

def readableFields : List (String × Toml) → Bool
  | [] => true
  | (_, v) :: fs => readable v && readableFields fs

def readableTables : List (List (String × Toml)) → Bool
  | [] => true
  | fs :: rest => readableFields fs && readableTables rest

end

/-- The settings of a document. -/
def ofFields? (fields : Toml.Fields) : Option Settings :=
  if (fields.filter (·.1 ≠ "settings")).all fun f => readable f.2 then
    match Toml.find? "settings" fields with
    | some v => ofToml? v
    | none => some {}
  else none

/-- The settings of a text. -/
def parse? (s : String) : Option Settings := (Toml.read? s).bind ofFields?

/-- The options with the settings in place of those they name. -/
def apply (s : Settings) (o : Options) : Options :=
  { region := s.region.getD o.region
    language := s.language.getD o.language
    outputDir := s.outputDir.getD o.outputDir
    storePath := s.storePath.or o.storePath
    onlyFree := s.onlyFree.getD o.onlyFree
    minInstalls := s.minInstalls.getD o.minInstalls
    maxApps := s.maxApps.getD o.maxApps
    maxDepth := s.maxDepth.getD o.maxDepth
    batchSize := s.batchSize.getD o.batchSize
    seedWindow := s.seedWindow.getD o.seedWindow
    expandWindow := s.expandWindow.getD o.expandWindow
    backfillWindow := s.backfillWindow.getD o.backfillWindow
    pageSize := s.pageSize.getD o.pageSize
    catalogUrl := s.catalogUrl.getD o.catalogUrl
    requestTimeout := s.requestTimeout.getD o.requestTimeout
    categories := s.categories.getD o.categories
    collections := s.collections.getD o.collections
    verbose := s.verbose.getD o.verbose
    logFile := s.logFile.or o.logFile
    progress := s.progress.getD o.progress }

end Settings

end CatalogCrawl
