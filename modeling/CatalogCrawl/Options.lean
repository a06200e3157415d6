import CatalogCrawl.Catalog.Basic
import CatalogCrawl.Catalog.Taxonomy
import CatalogCrawl.Disk.Path
import CatalogCrawl.Failure
import CatalogCrawl.Store.Info
import CatalogCrawl.Text.Blank
import CatalogCrawl.Url.Parser

/-! # Crawl options

Everything a crawl can be told, with its defaults, and which options it refuses to run with. -/

namespace CatalogCrawl

structure Options where
  /-- Country code sent to the catalog. -/
  region : String := "at"
  /-- Language code sent to the catalog. -/
  language : String := "en"
  /-- Where the store and the export are kept. -/
  outputDir : String := "."
  /-- The store, if not at its usual place in the output directory. -/
  storePath : Option String := none
  /-- Export free items only, or else paid ones only. -/
  onlyFree : Bool := false
  /-- Export items with at least so many installs. -/
  minInstalls : Int := 0
  /-- The budget: how many items one run may discover. -/
  maxApps : Nat := 999999999
  /-- Levels below this depth are expanded. -/
  maxDepth : Nat := 9
  /-- How many calls are made at a time. -/
  batchSize : Nat := 25
  /-- The least time between the starts of two batches, in milliseconds, for each stage. -/
  seedWindow : Nat := 1000
  expandWindow : Nat := 700
  backfillWindow : Nat := 1000
  /-- How many items a listing page is to have. -/
  pageSize : Nat := 200
  catalogUrl : String := "http://localhost:3000"
  /-- How long a request may take, in seconds. -/
  requestTimeout : Nat := 30
  /-- The categories to seed from. None means all. -/
  categories : List String := []
  /-- The collections to seed from. None means all. -/
  collections : List String := []
  verbose : Bool := false
  /-- A file that log lines are appended to. -/
  logFile : Option String := none
  /-- Show progress. -/
  progress : Bool := true
  deriving DecidableEq, Repr

namespace Options

def storeFile : String := "apps.db"
def exportFile : String := "apps.csv"

/-- Where the store is. -/
def store (o : Options) : String := o.storePath.getD (Path.join o.outputDir storeFile)

/-- Where the export goes. -/
def exportPath (o : Options) : String := Path.join o.outputDir exportFile

def locale (o : Options) : Locale := ⟨o.language, o.region⟩

def exportFilter (o : Options) : ExportFilter := ⟨o.onlyFree, o.minInstalls⟩

def seedCategories (o : Options) : List String :=
  if o.categories.isEmpty then Taxonomy.categories else o.categories

def seedCollections (o : Options) : List String :=
  if o.collections.isEmpty then Taxonomy.collections else o.collections

/-- The listing pages to seed from, category by category. -/
def seedQueries (o : Options) : List ListQuery :=
  o.seedCategories.flatMap fun category =>
    o.seedCollections.map fun collection => ⟨category, collection, o.pageSize, o.locale⟩

/-- Options that a crawl cannot run with. -/
inductive Invalid where
  | emptyRegion
  | emptyLanguage
  | noBatch
  | noPage
  | noWindow
  | negativeInstalls
  | catalogUrl (url : String) (cause : Url.ParseError)
  deriving DecidableEq, Repr

def Invalid.failure : Invalid → Failure
  | .emptyRegion => .rule "region must not be empty"
  | .emptyLanguage => .rule "language must not be empty"
  | .noBatch => .rule "batch_size must be at least 1"
  | .noPage => .rule "seed_page_size must be at least 1"
  | .noWindow => .rule "batch windows must be at least 1 ms"
  | .negativeInstalls => .rule "only_min_installs must not be negative"
  | .catalogUrl url cause => .during s!"invalid catalog url '{url}'" (.url cause)

/-- Checks the options. The first rule that is broken is reported. -/
def validate (o : Options) : Except Invalid Unit :=
  if Text.allBlank o.region then .error .emptyRegion
  else if Text.allBlank o.language then .error .emptyLanguage
  else if o.batchSize = 0 then .error .noBatch
  else if o.pageSize = 0 then .error .noPage
  else if o.seedWindow = 0 || o.expandWindow = 0 || o.backfillWindow = 0 then .error .noWindow
  else if o.minInstalls < 0 then .error .negativeInstalls
  else match Url.parse o.catalogUrl with
    | .error e => .error (.catalogUrl o.catalogUrl e)
    | .ok _ => .ok ()

end Options

end CatalogCrawl
