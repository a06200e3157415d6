import CatalogCrawl.Keyed
import CatalogCrawl.Log
import CatalogCrawl.Text.Pattern.Reader
import CatalogCrawl.Text.Split

/-! # Log filters

Which records are written: a threshold for each origin, the one with the longest name
that the origin's name starts with, and a pattern for their texts. Filters are written
`name=level,name=level/pattern`. -/

namespace CatalogCrawl.Log

/-- The least severe level that is written. -/
inductive Threshold where
  | off
  | level (l : Level)
  | all
  deriving DecidableEq, Repr

namespace Threshold

def admits : Threshold → Level → Bool
  | .off, _ => false
  | .level t, l => t.rank ≤ l.rank
  | .all, _ => true

/-- Reads a threshold, in letters of any case. -/
def ofName? (s : String) : Option Threshold :=
  match String.ofList (s.toList.map Char.toLower) with
  | "off" => some .off
  | "error" => some (.level .error)
  | "warn" => some (.level .warn)
  | "info" => some (.level .info)
  | "debug" => some (.level .debug)
  | "trace" => some .all
  | _ => none

end Threshold

/-- A threshold for the origins whose names start with a text, or for all. -/
structure Directive where
  name : Option String
  threshold : Threshold
  deriving DecidableEq, Repr

structure Filter where
  directives : List Directive := []
  /-- What must occur in the text of a record. -/
  pattern : Option Text.Pattern := none
  deriving DecidableEq, Repr

namespace Filter

/-- The filter with one more directive, which replaces the one for the same name. -/
def add (f : Filter) (d : Directive) : Filter :=
  { f with directives := Keyed.put Directive.name d f.directives }

/-- Sets the threshold for a name. -/
def set (f : Filter) (name : Option String) (threshold : Threshold) : Filter :=
  f.add ⟨name, threshold⟩

/-- Reads a directive, or gives the text that is wrong with it. -/
def readDirective (s : String) : Except String Directive :=
  match (Text.splitOn '=' s.toList).map String.ofList with
  | [name] =>
    match Threshold.ofName? name with
    | some t => .ok ⟨none, t⟩
    | none => .ok ⟨some name, .all⟩
  | [name, level] =>
    let level := Text.trim level
    if level.isEmpty then .ok ⟨some name, .all⟩
    else match Threshold.ofName? level with
      | some t => .ok ⟨some name, t⟩
      | none => .error level
  | _ => .error s

/-- Reads directives onto a filter. Bad ones are left out, with a warning for each. -/
def readDirectives (f : Filter) : List String → Filter × List String
  | [] => (f, [])
  | s :: rest =>
    let s := Text.trim s
    if s.isEmpty then readDirectives f rest
    else match readDirective s with
      | .ok d => readDirectives (f.add d) rest
      | .error bad =>
        let (f, warnings) := readDirectives f rest
        (f, s!"warning: invalid logging spec '{bad}', ignoring it" :: warnings)

/-- Reads a filter, with warnings for what is wrong with it. -/
def parse (s : String) : Filter × List String :=
  match (Text.splitOn '/' s.toList).map String.ofList with
  | [directives] => readDirectives {} ((Text.splitOn ',' directives.toList).map String.ofList)
  | [directives, pattern] =>
    let (f, warnings) := readDirectives {} ((Text.splitOn ',' directives.toList).map String.ofList)
    match Text.Pattern.read pattern with
    | .ok p => ({ f with pattern := some p }, warnings)
    | .error problem =>
      let reason := problem.message pattern
      (f, warnings ++ [s!"warning: invalid regex filter - {reason}, ignoring it"])
  | _ => ({}, [s!"warning: invalid logging spec '{s}' (too many '/'s), ignoring it"])

/-- Whether a directive is for an origin. -/
def applies (path : String) (d : Directive) : Bool :=
  match d.name with
  | some name => name.toList.isPrefixOf path.toList
  | none => true

def nameSize (d : Directive) : Nat :=
  match d.name with
  | some name => name.utf8ByteSize
  | none => 0

/-- The directive with the longest name of those for an origin. -/
def directiveFor? (f : Filter) (path : String) : Option Directive :=
  (f.directives.filter (applies path)).foldl
    (fun best d => match best with
      | some b => if nameSize b ≤ nameSize d then some d else some b
      | none => some d) none

/-- Whether a record is written. -/
def admits (f : Filter) (r : Record) : Bool :=
  (match f.directiveFor? r.origin.path with
    | some d => d.threshold.admits r.level
    | none => false) &&
  match f.pattern with
  | some p => p.occursIn r.text
  | none => true

end Filter

end CatalogCrawl.Log
