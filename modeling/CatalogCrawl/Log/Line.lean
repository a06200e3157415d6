import CatalogCrawl.Log.Filter
import CatalogCrawl.Text.Color
import CatalogCrawl.Text.Escape

/-! # Log lines

How records look when they are written. Warnings and errors show their level and origin. -/

namespace CatalogCrawl.Log

/-- What log lines start with. -/
def programName : String := "appcrawl"

def Level.color : Level → Text.Color
  | .error => .red
  | _ => .yellow

def Record.line (r : Record) (colored : Bool) : String :=
  let program := Text.Color.paint .cyan colored programName
  match r.level with
  | .warn | .error =>
    let level := r.level.color.paint colored r.level.name
    let origin := Text.Color.paint .white colored r.origin.path
    s!"[{program} {level} {origin}] {r.text}\n"
  | _ => s!"[{program}] {r.text}\n"

/-- How records are written. -/
structure Style where
  filter : Filter := {}
  colored : Bool := false
  /-- Whether escape sequences are kept. -/
  raw : Bool := false

/-- The line of a record, on its own. -/
def Style.line (s : Style) (r : Record) : String :=
  let text := r.line s.colored
  if s.raw then text else Text.stripEscapes text

/-- The lines of the records that are written. -/
def Style.render (s : Style) (records : List Record) : String :=
  String.join ((records.filter s.filter.admits).map s.line)

end CatalogCrawl.Log
