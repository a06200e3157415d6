import CatalogCrawl.Failure

/-! # Replacing a file

A file is replaced by writing a sibling and renaming it over the file. Whoever reads the file
meanwhile sees what it held before or the whole of the new content.

The file tree has no permissions and no full disk, so a sibling that was written in part is not
among the states below: the sibling is refused, or it holds all of the new content. -/

namespace CatalogCrawl.Disk

/-- The sibling that is written first. It is named after `export` if the path ends in no name. A
name that is no text, for which the same holds, cannot be given: paths are texts here. -/
def tempPath (path : String) : String :=
  let name := (Path.fileName? path).getD "export"
  Path.join ((Path.parent? path).getD ".") s!"{name}.tmp"

/-- Makes the directory that a file is to be in, unless it is the working directory. -/
def makeParent (path : String) (d : Disk) : Except Failure Unit × Disk :=
  match Path.parent? path with
  | none => (.ok (), d)
  | some parent =>
    if parent.isEmpty then (.ok (), d)
    else match d.makeDirs parent with
      | (.ok (), d) => (.ok (), d)
      | (.error e, d) => (.error (.during s!"create {parent}" (.os e)), d)

/-- Replaces what a file holds. -/
def replaceFile (path : String) (content : Content) (d : Disk) : Except Failure Unit × Disk :=
  match makeParent path d with
  | (.error e, d) => (.error e, d)
  | (.ok (), d) =>
    let temp := tempPath path
    match d.write temp content with
    | .error e => (.error (.during s!"write {temp}" (.os e)), d)
    | .ok d =>
      match d.rename temp path with
      | .ok d => (.ok (), d)
      | .error e =>
        let d := match d.removeFile temp with
          | .ok d => d
          | .error _ => d
        (.error (.during s!"rename onto {path}" (.os e)), d)

/-- Replaces a file by one that holds a text. -/
def replaceText (path text : String) (d : Disk) : Except Failure Unit × Disk :=
  replaceFile path (.text text) d

end CatalogCrawl.Disk
