import CatalogCrawl.Catalog.Basic
import CatalogCrawl.Failure
import CatalogCrawl.Json.Reader
import CatalogCrawl.Url.Parser
import CatalogCrawl.Url.Query

/-! # The catalog over the network

A catalog behind a base URL. Listings are at `api/apps/` below it, the details of an id at
`api/apps/ID/` and what is similar to it at `api/apps/ID/similar/`. An id is added as a segment of
the path; the ids `.` and `..` add none, and tabs and line ends are left out. The network is given
by what comes back for a request. -/

namespace CatalogCrawl

/-- A request that goes out. -/
structure Request where
  url : Url
  agent : String

/-- What comes back for a request. -/
inductive Reply where
  /-- No connection was made. -/
  | unreachable
  /-- The connection was closed without an answer. -/
  | closed
  /-- An answer, whose body may have been cut short. -/
  | response (status : Nat) (body : String) (complete : Bool)
  deriving DecidableEq, Repr

/-- A network: the delay of a reply and the reply, which may depend on how many calls were made
before. -/
abbrev Network := Nat → Request → Nat × Reply

/-- A client of the catalog at a base URL, whose path has segments. -/
structure Client where
  base : Url

namespace Client

/-- How the client names itself. -/
def agent : String := "appcrawl/0.1.0"

/-- The client for a base URL. -/
def ofUrl (url : String) : Except Failure Client :=
  match Url.parse url with
  | .error e => .error (.during s!"invalid catalog url '{url}'" (.url e))
  | .ok base =>
    if base.isOpaque then .error (.rule s!"catalog url '{url}' cannot take a path")
    else .ok ⟨base⟩

/-- The URL of the endpoint with the given segments. -/
def endpoint (c : Client) (segments : List String) : Url :=
  c.base.extend (["api", "apps"] ++ segments ++ [""])

/-- A request for an endpoint, or the text of why none can be made. -/
def request (url : Url) (params : List (String × String)) : Except String Request :=
  if !url.hasHost then .error s!"builder error for url ({url.text})"
  else
    let full := url.withoutCredentials.withPairs params
    if url.scheme = "http".toList || url.scheme = "https".toList then .ok ⟨full, agent⟩
    else .error s!"builder error for url ({full.text})"

/-- The JSON value of a reply. -/
def readReply (url : Url) (r : Request) : Reply → Except FetchError Json
  | .unreachable | .closed =>
    .error (.transport url.text s!"error sending request for url ({r.url.text})")
  | .response status body complete =>
    if status < 200 || 300 ≤ status then .error (.status url.text status)
    else match if complete then Json.read? body else none with
      | some v => .ok v
      | none => .error (.malformed url.text "error decoding response body")

/-- Asks an endpoint. -/
def get {α : Type} (net : Network) (made : Nat) (url : Url) (params : List (String × String))
    (parse : Json → Except FetchError α × List Log.Record) : Answer α :=
  let sent : List Log.Record := [⟨.debug, .client, s!"GET {url.text}"⟩]
  match request url params with
  | .error cause => { sent, outcome := .error (.transport url.text cause) }
  | .ok r =>
    let (delay, reply) := net made r
    match readReply url r reply with
    | .error e => { delay, sent, outcome := .error e }
    | .ok v =>
      let (outcome, received) := parse v
      { delay, sent, received, outcome }

def localeParams (l : Locale) : List (String × String) :=
  [("lang", l.language), ("country", l.region)]

def listParams (q : ListQuery) : List (String × String) :=
  [("collection", q.collection), ("category", q.category), ("num", toString q.pageSize)] ++
    localeParams q.locale

/-- The endpoint and the parameters of a call. -/
def target (c : Client) : Call → Url × List (String × String)
  | .list q => (c.endpoint [], listParams q)
  | .similar id l => (c.endpoint [id, "similar"], localeParams l)
  | .detail id l => (c.endpoint [id], localeParams l)

/-- The catalog as the client sees it. -/
def catalog (c : Client) (net : Network) : Catalog where
  list made q :=
    let (url, params) := c.target (.list q)
    get net made url params (Item.parsePage url.text)
  similar made id l :=
    let (url, params) := c.target (.similar id l)
    get net made url params (Item.parsePage url.text)
  detail made id l :=
    let (url, params) := c.target (.detail id l)
    get net made url params fun body => (Detail.parse url.text body, [])

/-- The requests of the calls that reached a server, in order. -/
def reached (c : Client) (net : Network) (calls : List Call) : List Request :=
  calls.zipIdx.filterMap fun (call, made) =>
    let (url, params) := c.target call
    match request url params with
    | .error _ => none
    | .ok r => if (net made r).2 = .unreachable then none else some r

end Client

end CatalogCrawl
