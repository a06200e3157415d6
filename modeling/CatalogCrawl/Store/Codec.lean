import CatalogCrawl.Store.Basic

/-! # Stores as text

The form that a store has in a file: a JSON object with the rows of each table that is there. -/

namespace CatalogCrawl.Store

def encodeFrontierRow (r : FrontierRow) : Json :=
  .arr [.str r.id, .int r.depth, .int r.code, .str r.snapshot]

def encodeInfoRow (r : InfoRow) : Json :=
  .arr [.str r.id, .str r.installRange, .int r.minInstalls, .int r.maxInstalls, .int r.free,
    .str r.detail]

/-- The text of a store. -/
def encode (s : Store) : String :=
  let frontier := s.frontier.map fun t => ("frontier", Json.arr (t.rows.map encodeFrontierRow))
  let info := s.info.map fun t => ("info", Json.arr (t.rows.map encodeInfoRow))
  (Json.mkObj (frontier.toList ++ info.toList ++ [("logged", .bool s.logged)])).text

def decodeFrontierRow? : Json → Option FrontierRow
  | .arr [.str id, .int depth, .int code, .str snapshot] => some ⟨id, depth, code, snapshot⟩
  | _ => none

def decodeInfoRow? : Json → Option InfoRow
  | .arr [.str id, .str range, .int low, .int high, .int free, .str detail] =>
    some ⟨id, range, low, high, free, detail⟩
  | _ => none

/-- The table in a field, if the field is there. -/
def decodeTable? {ρ : Type} (decode : Json → Option ρ) : Option Json → Option (Option (Table ρ))
  | none => some none
  | some (.arr rows) => (rows.mapM decode).map fun rows => some { rows }
  | some _ => none

/-- Reads a store. -/
def decode? (text : String) : Option Store :=
  match Json.read? text with
  | some (.obj fields) => do
    let j := Json.obj fields
    return {
      frontier := ← decodeTable? decodeFrontierRow? (j.get? "frontier")
      info := ← decodeTable? decodeInfoRow? (j.get? "info")
      logged := (j.get? "logged").bind Json.bool? != some false }
  | _ => none

end CatalogCrawl.Store
