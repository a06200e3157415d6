import CatalogCrawl.Store.Frontier
import CatalogCrawl.Store.Info
import CatalogCrawl.Text.Color

/-! # The status report

Counts of the frontier by depth and status, and how many ids have details. -/

namespace CatalogCrawl

structure StatusReport where
  levels : List LevelCount
  frontier : Nat
  withInfo : Nat
  missingInfo : Nat
  deriving DecidableEq, Repr

namespace StatusReport

/-- The number of rows with a status, over all depths. -/
def total (r : StatusReport) (status : Status) : Nat :=
  (r.levels.filter (·.status = status)).foldl (fun sum level => sum + level.count) 0

def ofStore (s : Store) : Except StoreError StatusReport := do
  return {
    levels := ← s.summary
    frontier := ← s.frontierCount
    withInfo := ← s.infoCount
    missingInfo := ← s.missingInfoCount }

/-- The colour of a status. -/
def color : Status → Text.Color
  | .unvisited => .yellow
  | .visited => .green
  | .error => .red

def padLeft (n : Nat) (s : String) : String :=
  String.ofList (List.replicate (n - s.length) ' ') ++ s

def padRight (n : Nat) (s : String) : String :=
  s ++ String.ofList (List.replicate (n - s.length) ' ')

/-- The line of one level. The width of the label counts its colour codes. -/
def levelLine (colored : Bool) (l : LevelCount) : String :=
  let depth := padLeft 2 (toString l.depth)
  let label := padRight 20 ((color l.status).paint colored l.status.name)
  s!"depth {depth}  {label} {l.count}\n"

/-- The total of one status, in its colour. -/
def totalPart (colored : Bool) (r : StatusReport) (label : String) (status : Status) : String :=
  let count := r.total status
  (color status).paint colored s!"{label}: {count}"

/-- The report as text. -/
def text (colored : Bool) (r : StatusReport) : String :=
  if r.frontier = 0 then "Store is empty.\n"
  else
    let levels := String.join (r.levels.map (levelLine colored))
    let unvisited := r.totalPart colored "Unvisited" .unvisited
    let visited := r.totalPart colored "Visited" .visited
    let error := r.totalPart colored "Error" .error
    s!"{levels}{unvisited} | {visited} | {error}\n{r.frontier} apps, {r.withInfo} with info, {r.missingInfo} missing info\n"

end StatusReport

end CatalogCrawl
