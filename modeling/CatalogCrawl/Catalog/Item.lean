import CatalogCrawl.Json.Printer
import CatalogCrawl.Log

/-! # Catalog payloads

What the catalog answers to a listing, to a request for similar items and to a request for details,
read from JSON. -/

namespace CatalogCrawl

/-- Why a catalog call failed. -/
inductive FetchError where
  /-- The request could not be sent, or no answer came. -/
  | transport (url cause : String)
  | status (url : String) (code : Nat)
  | malformed (url reason : String)
  deriving DecidableEq, Repr

def FetchError.message : FetchError → String
  | .transport url cause => s!"request to {url} failed: {cause}"
  | .status url code => s!"{url} returned HTTP {code}"
  | .malformed url reason => s!"malformed response from {url}: {reason}"

/-- An item of a listing, with the payload it came in. -/
structure Item where
  id : String
  raw : Json

namespace Item

/-- The id of an element: its `appId`, or its `id` if it has no `appId`. -/
def idOf? (raw : Json) : Option String :=
  match raw.get? "appId" with
  | some v => v.str?
  | none => (raw.get? "id").bind Json.str?

def ofJson? (raw : Json) : Option Item := (idOf? raw).map fun id => ⟨id, raw⟩

/-- The elements of a listing: an array, or the array under `results`. -/
def elements (url : String) : Json → Except FetchError (List Json)
  | .arr items => .ok items
  | .obj fields =>
    match (Json.obj fields).get? "results" with
    | some (.arr items) => .ok items
    | _ => .error (.malformed url "expected a `results` array")
  | _ => .error (.malformed url "expected an array of items")

/-- The warning for an element without an id. -/
def skipped (url : String) (raw : Json) : Log.Record :=
  ⟨.warn, .client, s!"Skipping item without appId from {url}: {raw.text}"⟩

/-- The items of a listing, and a warning for every element that is none. -/
def ofElements (url : String) (raws : List Json) : List Item × List Log.Record :=
  (raws.filterMap ofJson?, (raws.filter fun r => (idOf? r).isNone).map (skipped url))

/-- Reads a listing. -/
def parsePage (url : String) (body : Json) : Except FetchError (List Item) × List Log.Record :=
  match elements url body with
  | .ok raws =>
    let (items, warnings) := ofElements url raws
    (.ok items, warnings)
  | .error e => (.error e, [])

end Item

/-- What the store keeps of an item's details. -/
structure InfoRecord where
  id : String
  installRange : String
  minInstalls : Int
  maxInstalls : Int
  isFree : Bool
  detail : Json

/-- Details as the catalog gives them. -/
structure Detail where
  installRange : String
  minInstalls : Int
  maxInstalls : Int
  isFree : Bool
  raw : Json

namespace Detail

def toRecord (d : Detail) (id : String) : InfoRecord :=
  ⟨id, d.installRange, d.minInstalls, d.maxInstalls, d.isFree, d.raw⟩

/-- Reads details. The flag `free` is required; bounds that are missing or no whole number of 64
signed bits are 0, a range that is missing or no text is empty. -/
def parse (url : String) (body : Json) : Except FetchError Detail :=
  match body with
  | .obj _ =>
    match (body.get? "free").bind Json.bool? with
    | none => .error (.malformed url "missing `free` flag")
    | some free => .ok
        { installRange := ((body.get? "installs").bind Json.str?).getD ""
          minInstalls := ((body.get? "minInstalls").bind Json.signed?).getD 0
          maxInstalls := ((body.get? "maxInstalls").bind Json.signed?).getD 0
          isFree := free
          raw := body }
  | _ => .error (.malformed url "expected a detail object")

end Detail

end CatalogCrawl
