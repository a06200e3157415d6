import CatalogCrawl.Disk.Basic
import CatalogCrawl.Url.Host

/-! # Failures

What a command, a stage or a file operation may fail with: a cause and what was being done when it
arose. -/

namespace CatalogCrawl

inductive Failure where
  | store (e : StoreError)
  | os (e : OsError)
  | url (e : Url.ParseError)
  /-- A rule that was broken, in words. -/
  | rule (text : String)
  /-- What was being done when the cause arose. -/
  | during (doing : String) (cause : Failure)
  deriving DecidableEq, Repr

namespace Failure

/-- The outermost text. -/
def message : Failure → String
  | .store e => e.message
  | .os e => e.message
  | .url e => e.message
  | .rule text => text
  | .during doing _ => doing

/-- All texts, the outermost first. -/
def causes : Failure → List String
  | .during doing cause => doing :: cause.causes
  | f => [f.message]

/-- The texts on one line. -/
def chain (f : Failure) : String := ": ".intercalate f.causes

end Failure

end CatalogCrawl
