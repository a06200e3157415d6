import CatalogCrawl.Config.Arguments
import CatalogCrawl.Config.Environment
import CatalogCrawl.Config.Settings

/-! # Layers of options

Options come from four places. Each overrides the one before it: the defaults, the config file, the
environment and the command line. -/

namespace CatalogCrawl

/-- The options of the command line in place of those they name. -/
def Arguments.apply (a : Arguments) (o : Options) : Options :=
  { o with
    outputDir := a.output.getD o.outputDir
    storePath := a.store.or o.storePath
    region := a.country.getD o.region
    language := a.language.getD o.language
    onlyFree := a.onlyFree.getD o.onlyFree
    minInstalls := a.minInstalls.getD o.minInstalls
    maxApps := a.maxApps.getD o.maxApps
    maxDepth := a.maxDepth.getD o.maxDepth
    batchSize := a.batchSize.getD o.batchSize
    catalogUrl := a.catalogUrl.getD o.catalogUrl
    logFile := a.log.or o.logFile
    verbose := a.verbose.getD o.verbose
    progress := o.progress && !a.noProgress }

namespace Config

/-- The config file that is read when none is named. -/
def defaultFile : String := ".appcrawl.toml"

/-- The settings of the config file. One that is named must be there; the default one need not. -/
def loadSettings (disk : Disk) (named : Option String) (dir : String) :
    Except Failure (Option Settings) :=
  let path := named.getD (Path.join dir defaultFile)
  if named.isNone && !disk.isFile path then .ok none
  else match disk.readText path with
    | .error e => .error (.during s!"read {path}" (.os e))
    | .ok text =>
      match Settings.parse? text with
      | some s => .ok (some s)
      | none => .error (.during path (.during "parse crawl config" (.rule "TOML parse error")))

/-- The environment in place of the options it names. -/
def applyEnvironment (disk : Disk) (dir : String) (env : Environment) (o : Options) :
    Options × Environment :=
  let (url, env) := env.lookup disk dir "CATALOG_URL"
  let (region, env) := env.lookup disk dir "REGION"
  ({ o with catalogUrl := url.getD o.catalogUrl, region := region.getD o.region }, env)

/-- The options of all layers, and the environment they leave. -/
def build (disk : Disk) (dir : String) (env : Environment) (a : Arguments) :
    Except Failure (Options × Environment) := do
  let settings ← loadSettings disk a.config dir
  let (o, env) := applyEnvironment disk dir env ((settings.getD {}).apply {})
  return (a.apply o, env)

end Config

end CatalogCrawl
