import CatalogCrawl.Crawl.World
import CatalogCrawl.Disk.Replace

/-! # Export

The ids whose details pass a filter, one on each line of a file. -/

namespace CatalogCrawl.World

/-- Writes the ids that pass a filter to a file, in place of what it held. Gives the ids. -/
def exportTo (f : ExportFilter) (path : String) (w : World) :
    Except Failure (List String) × World :=
  match w.store.exportIds f with
  | .error e => (.error (.during "query export rows" (.store e)), w)
  | .ok ids =>
    let w := Logged.info .exporting
      s!"Found {ids.length} apps (free: {f.onlyFree}) with at least {f.minInstalls} installs" w
    match Disk.replaceText path ("\n".intercalate ids) w.disk with
    | (.error e, disk) => (.error e, { w with disk })
    | (.ok (), disk) =>
      (.ok ids, Logged.info .exporting s!"Saved {ids.length} apps to {path}" { w with disk })

end CatalogCrawl.World
