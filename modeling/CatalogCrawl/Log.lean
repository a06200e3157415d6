/-! # Log records

A record has a level, the part of the program it comes from and a text. -/

namespace CatalogCrawl

namespace Log

inductive Level where
  | debug
  | info
  | warn
  | error
  deriving DecidableEq, Repr

/-- Larger is more severe. -/
def Level.rank : Level → Nat
  | .debug => 0
  | .info => 1
  | .warn => 2
  | .error => 3

def Level.name : Level → String
  | .debug => "DEBUG"
  | .info => "INFO"
  | .warn => "WARN"
  | .error => "ERROR"

/-- The part of the program that speaks. -/
inductive Origin where
  | program
  | command
  | client
  | pacing
  | seeding
  | expanding
  | backfilling
  | exporting
  | crawling
  deriving DecidableEq, Repr

/-- The name of an origin in log lines and in log filters. -/
def Origin.path : Origin → String
  | .program => "appcrawl"
  | .command => "appcrawl::engine::handlers"
  | .client => "appcrawl::catalog::http"
  | .pacing => "appcrawl::pipeline::batch"
  | .seeding => "appcrawl::pipeline::seed"
  | .expanding => "appcrawl::pipeline::expand"
  | .backfilling => "appcrawl::pipeline::backfill"
  | .exporting => "appcrawl::pipeline::export"
  | .crawling => "appcrawl::pipeline::orchestrator"

structure Record where
  level : Level
  origin : Origin
  text : String
  deriving DecidableEq, Repr

end Log

/-- States that keep a log. -/
class Logged (σ : Type) where
  note : Log.Record → σ → σ

namespace Logged

variable {σ : Type} [Logged σ]

/-- Notes several records, in order. -/
def noteAll (rs : List Log.Record) (s : σ) : σ := rs.foldl (fun s r => note r s) s

def debug (o : Log.Origin) (text : String) (s : σ) : σ := note ⟨.debug, o, text⟩ s
def info (o : Log.Origin) (text : String) (s : σ) : σ := note ⟨.info, o, text⟩ s
def warn (o : Log.Origin) (text : String) (s : σ) : σ := note ⟨.warn, o, text⟩ s
def error (o : Log.Origin) (text : String) (s : σ) : σ := note ⟨.error, o, text⟩ s

end Logged

end CatalogCrawl
