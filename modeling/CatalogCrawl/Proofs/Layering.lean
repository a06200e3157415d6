import CatalogCrawl.Config.Layers
import CatalogCrawl.Proofs.Lookups
import CatalogCrawl.Proofs.TomlTables
import Mathlib.Data.List.Induction

/-! # Where an option comes from

Every option is what the uppermost layer says that speaks of it: the command line, the environment
for two of the options, the config file, and the defaults for what is left
(`Config.build_layered`). The names under which the layers know an option differ, so the statement
lists them once, option by option (`Config.Layered`).

The config file is read into settings by a fold over the fields of its table. What the fold gives is
a function of the values of the keys (`Settings.ofEntries`), since a document has no key twice. -/

namespace CatalogCrawl

namespace Settings

variable {s : Settings} {k : String} {v : Toml} {file : String → Option Toml} {doc : Toml.Fields}

/-! ## The values of a document -/

/-- The settings that the values of the keys give. -/
def ofEntries (file : String → Option Toml) : Settings where
  region := (file "region").bind text?
  language := (file "language").bind text?
  outputDir := (file "output").bind text?
  storePath := (file "db_path").bind text?
  onlyFree := (file "only_free").bind flag?
  minInstalls := (file "only_min_installs").bind signed?
  maxApps := (file "max").bind (natural? 64)
  maxDepth := (file "max_depth").bind (natural? 32)
  batchSize := (file "batch_size").bind (natural? 64)
  seedWindow := (file "seed_window_ms").bind (natural? 64)
  expandWindow := (file "expand_window_ms").bind (natural? 64)
  backfillWindow := (file "backfill_window_ms").bind (natural? 64)
  pageSize := (file "seed_page_size").bind (natural? 64)
  catalogUrl := (file "catalog_url").bind text?
  requestTimeout := (file "request_timeout_secs").bind (natural? 64)
  categories := (file "categories").bind texts?
  collections := (file "collections").bind texts?
  verbose := (file "verbose").bind flag?
  logFile := (file "log").bind text?
  progress := (file "progress").bind flag?

/-- A field sets what its key gives, and nothing else. -/
theorem set_ofEntries (h : (ofEntries file).set (k, v) = some s) :
    s = ofEntries (Function.update file k (some v)) := by
  unfold Settings.set at h
  split at h
  case h_21 => cases h
  all_goals
    next heq =>
      cases heq
      obtain ⟨x, hx, rfl⟩ := Option.map_eq_some_iff.mp h
      simp only [ofEntries, Function.update_apply, String.reduceEq, reduceIte, Option.bind_some, hx]

/-- Values that fit their keys. -/
def Accepted (file : String → Option Toml) : Prop :=
  ∀ k v, file k = some v → ∃ s s' : Settings, s.set (k, v) = some s'

theorem accepted_none : Accepted fun _ => none := by
  intro k v h
  cases h

theorem Accepted.update (h : Accepted file) {s s' : Settings} (hset : s.set (k, v) = some s') :
    Accepted (Function.update file k (some v)) := by
  intro k' v' hv'
  by_cases hk : k' = k
  · subst hk
    rw [Function.update_self] at hv'
    cases hv'
    exact ⟨s, s', hset⟩
  · rw [Function.update_of_ne hk] at hv'
    exact h k' v' hv'

/-- A value that is accepted for a key can be read as what the key stands for. -/
theorem Accepted.isSome {α : Type} {read : Toml → Option α} {put : Settings → α → Settings}
    (h : Accepted file) (hset : ∀ (s : Settings) v, s.set (k, v) = (read v).map (put s)) :
    ∀ v, file k = some v → (read v).isSome := by
  intro v hv
  obtain ⟨s, s', hs⟩ := h k v hv
  rw [hset] at hs
  obtain ⟨x, hx, -⟩ := Option.map_eq_some_iff.mp hs
  exact Option.isSome_of_mem hx

/-- The fold over the fields gives the settings of their values, each of which is accepted. -/
theorem ofEntries_of_foldlM {fs : Toml.Fields} (hkeys : (fs.map (·.1)).Nodup)
    (h : fs.foldlM set {} = some s) :
    s = ofEntries (Toml.find? · fs) ∧ Accepted (Toml.find? · fs) := by
  -- the last field is set last, so the induction takes the fields from the end
  induction fs using List.reverseRecOn generalizing s with
  | nil =>
    cases h
    exact ⟨rfl, accepted_none⟩
  | append_singleton fs f ih =>
    rw [List.foldlM_append] at h
    obtain ⟨s₁, hs₁, h⟩ := Option.bind_eq_some_iff.mp h
    obtain ⟨s', hset, heq⟩ := Option.bind_eq_some_iff.mp h
    cases heq
    obtain ⟨rfl, haccepted⟩ := ih (List.Nodup.of_append_left (List.map_append ▸ hkeys)) hs₁
    rw [Toml.find?_concat hkeys]
    exact ⟨set_ofEntries hset, haccepted.update hset⟩

/-- The value of a key in the table `settings`. -/
def named (doc : Toml.Fields) (key : String) : Option Toml :=
  match Toml.find? "settings" doc with
  | some (.table _ fs) => Toml.find? key fs
  | _ => none

/-- The value at the place of a key, where `settings` is an array. -/
def placed (doc : Toml.Fields) (key : String) : Option Toml :=
  match Toml.find? "settings" doc with
  | some (.array items) => Toml.find? key (keys.zip items)
  | _ => none

/-- The value of a setting in a document. -/
def entry (doc : Toml.Fields) (key : String) : Option Toml := (named doc key).or (placed doc key)

/-- No document has both. -/
theorem named_eq_none_of_placed (h : (placed doc k).isSome) (key : String) :
    named doc key = none := by
  unfold placed at h
  unfold named
  split at h
  · next hfind => rw [hfind]
  · cases h

theorem ofEntries_of_ofFields? (hdoc : doc.Distinct) (h : ofFields? doc = some s) :
    s = ofEntries (entry doc) ∧ Accepted (entry doc) := by
  unfold ofFields? at h
  split at h
  · split at h
    · next t hfind =>
      cases t with
      | table origin fs =>
        have hentry : entry doc = (Toml.find? · fs) := by
          funext key
          simp [entry, named, placed, hfind]
        have hfs := Toml.distinct_table_iff.mp (hdoc.find? hfind)
        exact hentry ▸ ofEntries_of_foldlM hfs.keys h
      | array items =>
        have hentry : entry doc = (Toml.find? · (keys.zip items)) := by
          funext key
          simp [entry, named, placed, hfind]
        unfold ofToml? at h
        dsimp only at h
        split at h
        · cases h
        next hlength =>
          have hkeys : ((keys.zip items).map (·.1)).Nodup := by
            rw [List.map_fst_zip (Nat.le_of_not_lt hlength)]
            decide
          exact hentry ▸ ofEntries_of_foldlM hkeys h
      | _ => cases h
    · next hfind =>
      cases h
      have hentry : entry doc = fun _ => none := by
        funext key
        simp [entry, named, placed, hfind]
      exact hentry ▸ ⟨rfl, accepted_none⟩
  · cases h

end Settings

namespace Text

theorem allBlank_iff {s : String} : allBlank s = true ↔ trim s = "" := by
  have hempty : trim s = "" ↔ ∀ c ∈ s.toList.dropWhile isBlank, isBlank c = true := by
    rw [trim, ← String.toList_inj, String.toList_ofList, String.toList_empty, trimEnd,
      List.reverse_eq_nil_iff, List.dropWhile_eq_nil_iff]
    simp only [List.mem_reverse, trimStart]
  rw [hempty, allBlank, List.all_eq_true]
  constructor
  · intro h c hc
    exact h c ((List.dropWhile_sublist _).mem hc)
  · intro h c hc
    have hparts : s.toList.takeWhile isBlank ++ s.toList.dropWhile isBlank = s.toList :=
      List.takeWhile_append_dropWhile
    rw [← hparts, List.mem_append] at hc
    exact hc.elim List.mem_takeWhile_imp (h c)

end Text

namespace Environment

variable {disk : Disk} {dir key name : String} {env : Environment}

/-! ## The value of a variable -/

theorem nonBlank?_eq : env.nonBlank? name = ((env.get? name).map Text.trim).filter (· ≠ "") := by
  unfold nonBlank?
  cases env.get? name with
  | none => rfl
  | some v =>
    by_cases hv : Text.trim v = ""
    · simp [Text.allBlank_iff.mpr hv, hv, Option.filter]
    · simp [mt Text.allBlank_iff.mp hv, hv, Option.filter]

/-- The value for a key: the variable of the process, or else the one that is there after the file
`.env` has been read, trimmed and not empty. -/
def given (disk : Disk) (dir : String) (env : Environment) (key : String) : Option String :=
  let own (env : Environment) := ((env.get? (variableOf key)).map Text.trim).filter (· ≠ "")
  (own env).or ((env.load disk (Path.join dir ".env")).bind own)

theorem lookup_eq_given : (env.lookup disk dir key).1 = env.given disk dir key := by
  unfold given
  dsimp only
  simp only [← nonBlank?_eq]
  cases hvalue : env.nonBlank? (variableOf key) with
  | some v =>
    rw [lookup_of_nonBlank hvalue]
    rfl
  | none =>
    cases hload : env.load disk (Path.join dir ".env") with
    | none =>
      rw [lookup_of_no_file hvalue hload]
      rfl
    | some env' =>
      rw [lookup_of_load hvalue hload]
      rfl

end Environment

namespace Config

variable {disk : Disk} {dir : String} {env : Environment} {a : Arguments} {doc : Toml.Fields}

/-! ## One option -/

/-- What an option is: what the layers above the file say of it, else what the file says, understood
by `read`, else the default. -/
inductive Chosen {α : Type} (default : α) (read : Toml → Option α) :
    Option α → Option Toml → α → Prop
  | above (x : α) (file : Option Toml) : Chosen default read (some x) file x
  | file {v : Toml} {x : α} (h : read v = some x) : Chosen default read none (some v) x
  | default : Chosen default read none none default

theorem Chosen.eq_default {α : Type} {default x : α} {read : Toml → Option α}
    (h : Chosen default read none none x) : x = default := by
  cases h
  rfl

section

variable {α : Type} {read : Toml → Option α} {file : Option Toml}
  (h : ∀ v, file = some v → (read v).isSome)
include h

theorem Chosen.of_getD (default : α) (above : Option α) :
    Chosen default read above file (above.getD ((file.bind read).getD default)) := by
  cases above with
  | some x => exact .above x file
  | none =>
    cases file with
    | none => exact .default
    | some v =>
      obtain ⟨x, hx⟩ := Option.isSome_iff_exists.mp (h v rfl)
      rw [Option.bind_some, hx]
      exact .file hx

/-- Two layers above the file. -/
theorem Chosen.of_getD_or (default : α) (first second : Option α) :
    Chosen default read (first.or second) file
      (first.getD (second.getD ((file.bind read).getD default))) := by
  rw [← Option.getD_or]
  exact .of_getD h default (first.or second)

/-- An option that may be left unset. -/
theorem Chosen.of_or (default above : Option α) :
    Chosen default (fun v => (read v).map some) (above.map some) file
      (above.or ((file.bind read).or default)) := by
  cases above with
  | some x => exact .above (some x) file
  | none =>
    cases file with
    | none => exact .default
    | some v =>
      obtain ⟨x, hx⟩ := Option.isSome_iff_exists.mp (h v rfl)
      rw [Option.bind_some, hx]
      exact .file (congrArg (Option.map some) hx)

end

/-- An option that the layers above the file can only turn off. -/
theorem Chosen.of_and {read : Toml → Option Bool} {file : Option Toml}
    (h : ∀ v, file = some v → (read v).isSome) (default off : Bool) :
    Chosen default read (if off then some false else none) file
      ((file.bind read).getD default && !off) := by
  cases off with
  | true =>
    rw [Bool.not_true, Bool.and_false]
    exact .above false file
  | false =>
    rw [Bool.not_false, Bool.and_true]
    exact .of_getD h default none

/-! ## All options -/

/-- Where each option comes from: the command line `a`, the environment `env`, the values `file` of
the config file and the options `d` to begin with. -/
structure Layered (d : Options) (a : Arguments) (env : String → Option String)
    (file : String → Option Toml) (o : Options) : Prop where
  region : Chosen d.region Settings.text? (a.country.or (env "REGION")) (file "region") o.region
  language : Chosen d.language Settings.text? a.language (file "language") o.language
  outputDir : Chosen d.outputDir Settings.text? a.output (file "output") o.outputDir
  storePath :
    Chosen d.storePath (fun v => (Settings.text? v).map some) (a.store.map some) (file "db_path")
    o.storePath
  onlyFree : Chosen d.onlyFree Settings.flag? a.onlyFree (file "only_free") o.onlyFree
  minInstalls :
    Chosen d.minInstalls Settings.signed? a.minInstalls (file "only_min_installs") o.minInstalls
  maxApps : Chosen d.maxApps (Settings.natural? 64) a.maxApps (file "max") o.maxApps
  maxDepth : Chosen d.maxDepth (Settings.natural? 32) a.maxDepth (file "max_depth") o.maxDepth
  batchSize : Chosen d.batchSize (Settings.natural? 64) a.batchSize (file "batch_size") o.batchSize
  seedWindow : Chosen d.seedWindow (Settings.natural? 64) none (file "seed_window_ms") o.seedWindow
  expandWindow :
    Chosen d.expandWindow (Settings.natural? 64) none (file "expand_window_ms") o.expandWindow
  backfillWindow :
    Chosen d.backfillWindow (Settings.natural? 64) none (file "backfill_window_ms") o.backfillWindow
  pageSize : Chosen d.pageSize (Settings.natural? 64) none (file "seed_page_size") o.pageSize
  catalogUrl :
    Chosen d.catalogUrl Settings.text? (a.catalogUrl.or (env "CATALOG_URL")) (file "catalog_url")
    o.catalogUrl
  requestTimeout : Chosen d.requestTimeout (Settings.natural? 64) none (file "request_timeout_secs")
    o.requestTimeout
  categories : Chosen d.categories Settings.texts? none (file "categories") o.categories
  collections : Chosen d.collections Settings.texts? none (file "collections") o.collections
  verbose : Chosen d.verbose Settings.flag? a.verbose (file "verbose") o.verbose
  logFile : Chosen d.logFile (fun v => (Settings.text? v).map some) (a.log.map some)
    (file "log") o.logFile
  progress :
    Chosen d.progress Settings.flag? (if a.noProgress then some false else none) (file "progress")
    o.progress

/-- The environment speaks of two options, the region and the address. -/
theorem fst_applyEnvironment (o : Options) :
    (applyEnvironment disk dir env o).1 =
      { o with
        catalogUrl := (env.given disk dir "CATALOG_URL").getD o.catalogUrl
        region := (env.given disk dir "REGION").getD o.region } := by
  have hfirst : Environment.Reached disk dir env (env.lookup disk dir "CATALOG_URL").2 :=
    (Environment.Reached.start.lookup _).2
  simp only [applyEnvironment, (hfirst.lookup "REGION").1, Environment.lookup_eq_given]

/-- Each layer replaces the options that it knows and leaves the others. -/
theorem layered_apply {file : String → Option Toml} (h : Settings.Accepted file) (d : Options) :
    Layered d a (env.given disk dir) file
      (a.apply (applyEnvironment disk dir env ((Settings.ofEntries file).apply d)).1) := by
  rw [fst_applyEnvironment]
  exact {
    region := .of_getD_or (h.isSome fun _ _ => rfl) _ _ _
    language := .of_getD (h.isSome fun _ _ => rfl) _ _
    outputDir := .of_getD (h.isSome fun _ _ => rfl) _ _
    storePath := .of_or (h.isSome fun _ _ => rfl) _ _
    onlyFree := .of_getD (h.isSome fun _ _ => rfl) _ _
    minInstalls := .of_getD (h.isSome fun _ _ => rfl) _ _
    maxApps := .of_getD (h.isSome fun _ _ => rfl) _ _
    maxDepth := .of_getD (h.isSome fun _ _ => rfl) _ _
    batchSize := .of_getD (h.isSome fun _ _ => rfl) _ _
    seedWindow := .of_getD (h.isSome fun _ _ => rfl) _ none
    expandWindow := .of_getD (h.isSome fun _ _ => rfl) _ none
    backfillWindow := .of_getD (h.isSome fun _ _ => rfl) _ none
    pageSize := .of_getD (h.isSome fun _ _ => rfl) _ none
    catalogUrl := .of_getD_or (h.isSome fun _ _ => rfl) _ _ _
    requestTimeout := .of_getD (h.isSome fun _ _ => rfl) _ none
    categories := .of_getD (h.isSome fun _ _ => rfl) _ none
    collections := .of_getD (h.isSome fun _ _ => rfl) _ none
    verbose := .of_getD (h.isSome fun _ _ => rfl) _ _
    logFile := .of_or (h.isSome fun _ _ => rfl) _ _
    progress := .of_and (h.isSome fun _ _ => rfl) _ _ }

/-! ## The config file -/

/-- Where the config file is. -/
def filePath (named : Option String) (dir : String) : String :=
  named.getD (Path.join dir defaultFile)

/-- The text of the config file. The default one is empty if it is missing. -/
def fileText (disk : Disk) (named : Option String) (dir : String) : Except OsError String :=
  if named.isNone && !disk.isFile (filePath named dir) then .ok ""
  else disk.readText (filePath named dir)

/-- The failure to read a config file. -/
def unread (path : String) (e : OsError) : Failure := .during s!"read {path}" (.os e)

/-- The failure to make sense of a config file. -/
def unparsed (path : String) : Failure :=
  .during path (.during "parse crawl config" (.rule "TOML parse error"))

/-- The settings of what was read from `path`. -/
def settled (path : String) : Except OsError String → Except Failure Settings
  | .error e => .error (unread path e)
  | .ok text => (Settings.parse? text).elim (.error (unparsed path)) .ok

/-- The settings of the file, as a function of its text. -/
theorem map_loadSettings (named : Option String) :
    (loadSettings disk named dir).map (·.getD {}) =
      settled (filePath named dir) (fileText disk named dir) := by
  unfold loadSettings fileText
  dsimp only
  rw [← filePath]
  split
  · rfl
  · cases disk.readText (filePath named dir) with
    | error e => rfl
    | ok text =>
      dsimp only [settled]
      cases Settings.parse? text <;> rfl

/-- The options in three steps: the file, the environment and the command line. -/
theorem build_eq :
    build disk dir env a =
      (settled (filePath a.config dir) (fileText disk a.config dir)).map fun s =>
        (applyEnvironment disk dir env (s.apply {})).map a.apply id := by
  rw [← map_loadSettings, build]
  cases loadSettings disk a.config dir <;> rfl

theorem build_of_error {e : OsError} (h : fileText disk a.config dir = .error e) :
    build disk dir env a = .error (unread (filePath a.config dir) e) := by
  rw [build_eq, h]
  rfl

/-- There are no options if the file makes no sense. -/
theorem build_of_not_parsed {text : String} (h : fileText disk a.config dir = .ok text)
    (hparse : Settings.parse? text = none) :
    build disk dir env a = .error (unparsed (filePath a.config dir)) := by
  rw [build_eq, h, settled, hparse]
  rfl

/-- If it does, there are, and they are layered. -/
theorem build_of_parsed {text : String} {s : Settings} (h : fileText disk a.config dir = .ok text)
    (hparse : Settings.parse? text = some s) :
    ∃ doc o env', Toml.read? text = some doc ∧ build disk dir env a = .ok (o, env') ∧
      Layered {} a (env.given disk dir) (Settings.entry doc) o := by
  obtain ⟨doc, hread, hsettings⟩ := Option.bind_eq_some_iff.mp hparse
  obtain ⟨rfl, haccepted⟩ :=
    Settings.ofEntries_of_ofFields? (Toml.distinct_of_read? hread) hsettings
  have hbuild : build disk dir env a = .ok
      ((applyEnvironment disk dir env ((Settings.ofEntries (Settings.entry doc)).apply {})).map
        a.apply id) := by
    rw [build_eq, h, settled, hparse]
    rfl
  exact ⟨doc, _, _, hread, hbuild, layered_apply haccepted {}⟩

/-- A file that is not there has no text. -/
theorem readText_of_not_isFile {path : String} (h : disk.isFile path = false) :
    ∃ e, disk.readText path = .error e := by
  unfold Disk.isFile at h
  unfold Disk.readText
  cases hresolve : disk.resolve path with
  | error e => exact ⟨e, rfl⟩
  | ok r =>
    obtain ⟨l, entry⟩ := r
    cases entry with
    | dir => exact ⟨.isDirectory, rfl⟩
    | file content =>
      rw [hresolve] at h
      cases h

theorem fileText_of_named {path : String} (h : a.config = some path) :
    fileText disk a.config dir = disk.readText path := by
  rw [h]
  rfl

/-- Of the disk, the options depend on the config file and the file `.env` only. -/
theorem build_congr {disk' : Disk}
    (htext : fileText disk' a.config dir = fileText disk a.config dir)
    (henv : disk'.resolve (Path.join dir ".env") = disk.resolve (Path.join dir ".env")) :
    build disk' dir env a = build disk dir env a := by
  have hlookup (key : String) (env : Environment) :
      env.lookup disk' dir key = env.lookup disk dir key := by
    unfold Environment.lookup Environment.load
    rw [henv]
  have happly (o : Options) :
      applyEnvironment disk' dir env o = applyEnvironment disk dir env o := by
    unfold applyEnvironment
    simp only [hlookup]
  simp only [build_eq, htext, happly]

/-- A default file without a text is as good as none. -/
theorem fileText_of_empty {disk' : Disk} (hmissing : disk.isFile (filePath none dir) = false)
    (hempty : disk'.readText (filePath none dir) = .ok "") :
    fileText disk' none dir = fileText disk none dir := by
  unfold fileText
  rw [hmissing, hempty]
  exact ite_self _

/-- Every option is what the uppermost layer says that speaks of it. There are no options if a
config file is named and missing, or if the one to use cannot be read or makes no sense. -/
theorem build_layered (disk : Disk) (dir : String) (env : Environment) (a : Arguments) :
    (∀ text s, fileText disk a.config dir = .ok text → Settings.parse? text = some s →
      ∃ doc o env', Toml.read? text = some doc ∧ build disk dir env a = .ok (o, env') ∧
        Layered {} a (env.given disk dir) (Settings.entry doc) o) ∧
    (∀ path, a.config = some path → disk.isFile path = false →
      ∃ e, build disk dir env a = .error (unread path e)) ∧
    (∀ e, fileText disk a.config dir = .error e →
      build disk dir env a = .error (unread (filePath a.config dir) e)) ∧
    (∀ text, fileText disk a.config dir = .ok text → Settings.parse? text = none →
      build disk dir env a = .error (unparsed (filePath a.config dir))) ∧
    (∀ disk' : Disk, a.config = none → disk.isFile (filePath none dir) = false →
      disk'.readText (filePath none dir) = .ok "" →
      disk'.resolve (Path.join dir ".env") = disk.resolve (Path.join dir ".env") →
      build disk' dir env a = build disk dir env a) := by
  refine ⟨fun text s h hparse => build_of_parsed h hparse, ?_, fun e h => build_of_error h,
    fun text h hparse => build_of_not_parsed h hparse, ?_⟩
  · intro path hnamed hmissing
    obtain ⟨e, he⟩ := readText_of_not_isFile hmissing
    have htext : fileText disk a.config dir = .error e := (fileText_of_named hnamed).trans he
    refine ⟨e, ?_⟩
    rw [build_of_error htext, hnamed]
    rfl
  · intro disk' hnone hmissing hempty henv
    exact build_congr (hnone ▸ fileText_of_empty hmissing hempty) henv

/-- The root directory with a config file and a file `.env`. -/
def rootFiles (config dotEnv : String) : Disk where
  cwd := []
  entries := [([defaultFile], .file (.text config)), ([".env"], .file (.text dotEnv))]

/-- A config file with four settings. -/
def fourSettings : String := "[settings]\nregion = 'de'\nmax_depth = 3\nmax = 7\nprogress = true"

/-- A file `.env` with the two variables that are read. -/
def twoVariables : String := "APPCRAWL_REGION=fr\nAPPCRAWL_CATALOG_URL=http://c\n"

/-- The variable for the region is set, though to a blank: `.env` does not replace it, and the
region is that of the config file. The address comes from `.env` and the depth from the config file;
the command line has the last word on the number of apps and on the progress. -/
theorem build_layered_rootFiles :
    (∃ doc o env', Toml.read? fourSettings = some doc ∧
      build (rootFiles fourSettings twoVariables) "/" [("APPCRAWL_REGION", " ")]
        { maxApps := some 5, noProgress := true } = .ok (o, env') ∧
      Layered {} { maxApps := some 5, noProgress := true }
        (Environment.given (rootFiles fourSettings twoVariables) "/" [("APPCRAWL_REGION", " ")])
        (Settings.entry doc) o ∧
      (o.region, o.catalogUrl, o.maxDepth, o.maxApps, o.progress) =
        ("de", "http://c", 3, 5, false)) ∧
    (∃ e, build (rootFiles "" "") "/" [] { config := some "crawl.toml" } =
      .error (unread "crawl.toml" e)) ∧
    build (rootFiles "[settings]\nregoin = 'de'" "") "/" [] {} =
      .error (unparsed "/.appcrawl.toml") ∧
    build (rootFiles "" "") "/" [] {} =
      build { cwd := [], entries := [([".env"], .file (.text ""))] } "/" [] {} := by
  have hparsed : (Settings.parse? fourSettings).isSome := by decide +kernel
  have hunknown : Settings.parse? "[settings]\nregoin = 'de'" = none := by decide +kernel
  have hmissing : (rootFiles "" "").isFile "crawl.toml" = false := by decide +kernel
  have hvalues : ((build (rootFiles fourSettings twoVariables) "/" [("APPCRAWL_REGION", " ")]
      { maxApps := some 5, noProgress := true }).toOption.map fun r =>
        (r.1.region, r.1.catalogUrl, r.1.maxDepth, r.1.maxApps, r.1.progress)) =
      some ("de", "http://c", 3, 5, false) := by decide +kernel
  refine ⟨?_, (build_layered _ _ _ _).2.1 "crawl.toml" rfl hmissing,
    (build_layered _ _ _ _).2.2.2.1 _ rfl hunknown,
    (build_layered _ _ _ _).2.2.2.2 _ rfl (by decide +kernel) rfl rfl⟩
  obtain ⟨s, hs⟩ := Option.isSome_iff_exists.mp hparsed
  obtain ⟨doc, o, env', hread, hbuild, hlayered⟩ :=
    (build_layered (rootFiles fourSettings twoVariables) "/"
    [("APPCRAWL_REGION", " ")] { maxApps := some 5, noProgress := true }).1 _ s rfl hs
  rw [hbuild] at hvalues
  exact ⟨doc, o, env', hread, hbuild, hlayered, Option.some.inj hvalues⟩

/-- A config file with a value for every setting and no key for any. -/
def allPlaced : String :=
  "settings = ['de', 'fr', 'o', 'p', true, 5, 6, 7, 8, 9, 10, 11, 12, 'u', 13, [], [], false, 'l', false]"

/-- The values of an array count, though the file has no table `settings`. -/
theorem build_allPlaced : ∃ doc o env', Toml.read? allPlaced = some doc ∧
    build (rootFiles allPlaced "") "/" [] {} = .ok (o, env') ∧ o.region = "de" ∧
    (∀ key, Settings.named doc key = none) ∧
    ¬ Layered {} {} (Environment.given (rootFiles allPlaced "") "/" []) (Settings.named doc) o := by
  have hparsed : (Settings.parse? allPlaced).isSome := by decide +kernel
  have hvalue :
      (build (rootFiles allPlaced "") "/" [] {}).toOption.map (·.1.region) = some "de" := by
    decide +kernel
  have hplaced : (Toml.read? allPlaced).any fun doc => (Settings.placed doc "region").isSome := by
    decide +kernel
  have hunset : Environment.given (rootFiles allPlaced "") "/" [] "REGION" = none := by
    decide +kernel
  obtain ⟨s, hs⟩ := Option.isSome_iff_exists.mp hparsed
  have htext : fileText (rootFiles allPlaced "") ({} : Arguments).config "/" = .ok allPlaced := rfl
  obtain ⟨doc, o, env', hread, hbuild, -⟩ := build_of_parsed htext hs
  rw [hbuild] at hvalue
  rw [hread] at hplaced
  have hregion : o.region = "de" := Option.some.inj hvalue
  have hnamed := Settings.named_eq_none_of_placed hplaced
  refine ⟨doc, o, env', hread, hbuild, hregion, hnamed, fun h => ?_⟩
  -- nothing is said of the region, so it would be the default one
  have hchosen := h.region
  rw [hunset, hnamed, hregion] at hchosen
  exact absurd hchosen.eq_default (by decide)

end Config

end CatalogCrawl
