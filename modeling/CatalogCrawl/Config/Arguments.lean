/-! # The command line

A command and options before or behind it. An option that is given on both sides counts as it is
given behind the command. -/

namespace CatalogCrawl

/-- What to do. -/
inductive Command where
  | run
  | save
  | status
  deriving DecidableEq, Repr

/-- Why the command line is not carried out. -/
inductive UsageError where
  | unknownArgument
  /-- A value is missing or is none of those that an option takes. -/
  | invalidValue
  /-- A value is no number of the right size. -/
  | badNumber
  /-- An option is given twice. -/
  | repeated
  | unknownCommand
  /-- An option that takes no value has one. -/
  | needlessValue
  /-- Help is asked for. -/
  | help
  deriving DecidableEq, Repr

/-- The options of the command line. -/
inductive Parameter where
  | output
  | store
  | config
  | country
  | language
  | onlyFree
  | minInstalls
  | maxApps
  | maxDepth
  | batchSize
  | catalogUrl
  | log
  | verbose
  | noProgress
  | help
  deriving DecidableEq, Repr

namespace Parameter

def ofLong? : String → Option Parameter
  | "output" => some .output
  | "db" => some .store
  | "config" => some .config
  | "country" => some .country
  | "language" => some .language
  | "only-free" => some .onlyFree
  | "only-min-installs" => some .minInstalls
  | "max" => some .maxApps
  | "max-depth" => some .maxDepth
  | "batch-size" => some .batchSize
  | "catalog-url" => some .catalogUrl
  | "log" => some .log
  | "verbose" => some .verbose
  | "no-progress" => some .noProgress
  | "help" => some .help
  | _ => none

def ofShort? : Char → Option Parameter
  | 'o' => some .output
  | 'c' => some .country
  | 'f' => some .onlyFree
  | 'i' => some .minInstalls
  | 'm' => some .maxApps
  | 'l' => some .log
  | 'v' => some .verbose
  | 'h' => some .help
  | _ => none

def takesValue (p : Parameter) : Bool := p ≠ .noProgress && p ≠ .help

/-- Whether the option may stand without a value, which is then `true`. -/
def mayStandAlone (p : Parameter) : Bool := p = .onlyFree || p = .verbose

end Parameter

/-- The options that were given. -/
structure Arguments where
  output : Option String := none
  store : Option String := none
  config : Option String := none
  country : Option String := none
  language : Option String := none
  onlyFree : Option Bool := none
  minInstalls : Option Int := none
  maxApps : Option Nat := none
  maxDepth : Option Nat := none
  batchSize : Option Nat := none
  catalogUrl : Option String := none
  log : Option String := none
  verbose : Option Bool := none
  noProgress : Bool := false
  deriving DecidableEq, Repr

namespace Arguments

/-! ## Values -/

def path (s : String) : Except UsageError String :=
  if s.isEmpty then .error .invalidValue else .ok s

def flag : String → Except UsageError Bool
  | "true" => .ok true
  | "false" => .ok false
  | _ => .error .invalidValue

/-- A nonempty sequence of digits. -/
def digits? (cs : List Char) : Option Nat :=
  if cs.isEmpty || !cs.all Char.isDigit then none else some (Nat.ofDigitChars 10 cs 0)

/-- A whole number with or without a sign. -/
def integer? (s : String) : Option Int :=
  match s.toList with
  | '+' :: cs => (digits? cs).map fun n => (n : Int)
  | '-' :: cs => (digits? cs).map fun n => -(n : Int)
  | cs => (digits? cs).map fun n => (n : Int)

/-- A whole number within bounds. -/
def bounded (low high : Int) (s : String) : Except UsageError Int :=
  match integer? s with
  | some n => if low ≤ n ∧ n ≤ high then .ok n else .error .badNumber
  | none => .error .badNumber

/-- A natural number of 64 bits, without a minus sign. -/
def natural (s : String) : Except UsageError Nat :=
  if s.toList.head? = some '-' then .error .badNumber
  else (bounded 0 18446744073709551615 s).map Int.toNat

/-! ## Options -/

def has (a : Arguments) : Parameter → Bool
  | .output => a.output.isSome
  | .store => a.store.isSome
  | .config => a.config.isSome
  | .country => a.country.isSome
  | .language => a.language.isSome
  | .onlyFree => a.onlyFree.isSome
  | .minInstalls => a.minInstalls.isSome
  | .maxApps => a.maxApps.isSome
  | .maxDepth => a.maxDepth.isSome
  | .batchSize => a.batchSize.isSome
  | .catalogUrl => a.catalogUrl.isSome
  | .log => a.log.isSome
  | .verbose => a.verbose.isSome
  | .noProgress => a.noProgress
  | .help => false

/-- Reads the value of an option. -/
def put (a : Arguments) (p : Parameter) (v : String) : Except UsageError Arguments :=
  match p with
  | .output => (path v).map fun x => { a with output := some x }
  | .store => (path v).map fun x => { a with store := some x }
  | .config => (path v).map fun x => { a with config := some x }
  | .country => .ok { a with country := some v }
  | .language => .ok { a with language := some v }
  | .onlyFree => (flag v).map fun x => { a with onlyFree := some x }
  | .minInstalls =>
    (bounded (-9223372036854775808) 9223372036854775807 v).map fun x =>
      { a with minInstalls := some x }
  | .maxApps => (natural v).map fun x => { a with maxApps := some x }
  | .maxDepth => (bounded 0 4294967295 v).map fun x => { a with maxDepth := some x.toNat }
  | .batchSize => (natural v).map fun x => { a with batchSize := some x }
  | .catalogUrl => .ok { a with catalogUrl := some v }
  | .log => (path v).map fun x => { a with log := some x }
  | .verbose => (flag v).map fun x => { a with verbose := some x }
  | .noProgress => .ok { a with noProgress := true }
  | .help => .error .help

/-- Sets an option that has not been set. -/
def set (a : Arguments) (p : Parameter) (v : String) : Except UsageError Arguments :=
  if a.has p then .error .repeated else a.put p v

/-- The options behind the command, completed by those before it. -/
def orElse (a b : Arguments) : Arguments :=
  { output := a.output.or b.output
    store := a.store.or b.store
    config := a.config.or b.config
    country := a.country.or b.country
    language := a.language.or b.language
    onlyFree := a.onlyFree.or b.onlyFree
    minInstalls := a.minInstalls.or b.minInstalls
    maxApps := a.maxApps.or b.maxApps
    maxDepth := a.maxDepth.or b.maxDepth
    batchSize := a.batchSize.or b.batchSize
    catalogUrl := a.catalogUrl.or b.catalogUrl
    log := a.log.or b.log
    verbose := a.verbose.or b.verbose
    noProgress := a.noProgress || b.noProgress }

/-! ## Reading -/

/-- What has been read on one side of the command. The last option waits to be taken up until the
next one comes. -/
structure Progress where
  arguments : Arguments := {}
  /-- The last option, with its value if that has come. -/
  pending : Option (Parameter × Option String) := none
  /-- Whether the next word may be the value of the last option. -/
  waiting : Bool := false
  /-- Whether `--` has come. -/
  trailing : Bool := false

/-- Takes up the last option. -/
def Progress.resolve (s : Progress) : Except UsageError Progress :=
  match s.pending with
  | none => .ok s
  | some (p, value) => do
    let v ← match value with
      | some v => .ok v
      | none => if p.mayStandAlone then .ok "true" else .error .invalidValue
    return { s with arguments := ← s.arguments.set p v, pending := none, waiting := false }

/-- Reads an option, with the value that is attached to it. -/
def Progress.option (s : Progress) (p : Parameter) (attached : Option String) :
    Except UsageError Progress :=
  if p.takesValue then do
    let s ← s.resolve
    match attached with
    | some v => return { s with arguments := ← s.arguments.set p v }
    | none => return { s with pending := some (p, none), waiting := true }
  else match attached with
    | some _ => .error .needlessValue
    | none => do
      let s ← s.resolve
      return { s with arguments := ← s.arguments.set p "true" }

/-- The name of a long option and the value behind its equals sign. -/
def splitLong (cs : List Char) : List Char × Option (List Char) :=
  match cs.dropWhile (· ≠ '=') with
  | '=' :: v => (cs.takeWhile (· ≠ '='), some v)
  | _ => (cs, none)

/-- Reads one or several options of one letter each. What follows a letter that takes a value is its
value. -/
def Progress.short (s : Progress) : List Char → Except UsageError Progress
  | [] => .ok s
  | c :: cs =>
    match Parameter.ofShort? c with
    | none => .error .unknownArgument
    | some p =>
      if p.takesValue then
        match cs with
        | [] => s.option p none
        | '=' :: v => s.option p (some (String.ofList v))
        | v => s.option p (some (String.ofList v))
      else do
        let s ← s.option p none
        s.short cs

/-- Reads a word. `stray` is the error for a word that is neither an option nor a value. -/
def Progress.word (stray : UsageError) (s : Progress) (w : String) : Except UsageError Progress :=
  match w.toList with
  | ['-', '-'] => .ok { s with trailing := true }
  | '-' :: '-' :: cs =>
    let (name, value) := splitLong cs
    match Parameter.ofLong? (String.ofList name) with
    | some p => s.option p (value.map String.ofList)
    | none => .error .unknownArgument
  | '-' :: c :: cs => s.short (c :: cs)
  | _ =>
    match s.pending with
    | some (p, none) =>
      if s.waiting then .ok { s with pending := some (p, some w), waiting := false }
      else .error stray
    | _ => .error stray

/-- Reads the words behind the command. -/
def readBehind : List String → Progress → Except UsageError Arguments
  | [], s => do return (← s.resolve).arguments
  | w :: ws, s =>
    if s.trailing then .error .unknownArgument
    else do readBehind ws (← s.word .unknownArgument w)

def command? : String → Option Command
  | "run" => some .run
  | "export" => some .save
  | "status" => some .status
  | _ => none

/-- Whether the words behind `help` name a command. -/
def helpError : List String → UsageError
  | [] => .help
  | [w] => if (command? w).isSome || w = "help" then .help else .unknownCommand
  | _ => .unknownCommand

/-- Reads the words before the command, and then the others. Errors behind the command
come first. -/
def readFront : List String → Progress → Except UsageError (Option Command × Arguments)
  | [], s => do return (none, (← s.resolve).arguments)
  | w :: ws, s =>
    if s.trailing then
      .error (if (command? w).isSome || w = "help" then .unknownArgument else .unknownCommand)
    else if s.waiting then do readFront ws (← s.word .unknownCommand w)
    else if w = "help" then .error (helpError ws)
    else match command? w with
      | some c => do
        let behind ← readBehind ws {}
        return (some c, behind.orElse (← s.resolve).arguments)
      | none => do readFront ws (← s.word .unknownCommand w)

/-- Reads a command line. Without a command it is a run. -/
def parse (words : List String) : Except UsageError (Command × Arguments) := do
  let (command, arguments) ← readFront words {}
  return (command.getD .run, arguments)

end Arguments

end CatalogCrawl
