import CatalogCrawl.Toml.Scalar
import CatalogCrawl.Toml.Text

/-! # Reading TOML

Documents are read line by line into one table. Between braces line breaks may stand anywhere but
within a key, and a comma may stand at the end. -/

namespace CatalogCrawl.Toml

/-- Characters that end a word. -/
def endsWord (c : Char) : Bool :=
  isGap c || c == '\n' || c == '\r' || c == ',' || c == ']' || c == '\x7d' || c == '#'

/-- A word and the text after it. A date and a time with a blank between them are one word. -/
def takeWord (cs : List Char) : List Char × List Char :=
  let word := cs.takeWhile (!endsWord ·)
  let rest := cs.drop word.length
  match rest with
  | ' ' :: d :: more =>
    if isDate word && d.isDigit then
      let time := (d :: more).takeWhile (!endsWord ·)
      (word ++ ' ' :: time, (d :: more).drop time.length)
    else (word, rest)
  | _ => (word, rest)

def readScalar (cs : List Char) : Option (Toml × List Char) :=
  let (word, rest) := takeWord cs
  (scalar? word).map fun v => (v, rest)

mutual

/-- A value with at most `depth` levels of nesting. -/
def readValue : Nat → Nat → List Char → Option (Toml × List Char)
  | 0, _, _ => none
  | fuel + 1, depth, cs =>
    match cs with
    | '"' :: _ => (readString cs).map fun (s, rest) => (.str (String.ofList s), rest)
    | '\'' :: _ => (readString cs).map fun (s, rest) => (.str (String.ofList s), rest)
    | '[' :: r =>
      match depth with
      | 0 => none
      | depth + 1 => (readItems fuel depth r).map fun (vs, rest) => (.array vs, rest)
    | '\x7b' :: r =>
      match depth with
      | 0 => none
      | depth + 1 => (readFields fuel depth [] r).map fun (fs, rest) => (.table .braced fs, rest)
    | _ => readScalar cs

/-- The items of an array up to its closing bracket. -/
def readItems : Nat → Nat → List Char → Option (List Toml × List Char)
  | 0, _, _ => none
  | fuel + 1, depth, cs =>
    match skipBlank false cs with
    | ']' :: r => some ([], r)
    | cs => do
      let (v, rest) ← readValue fuel depth cs
      match skipBlank false rest with
      | ',' :: r =>
        let (vs, rest) ← readItems fuel depth r
        return (v :: vs, rest)
      | ']' :: r => return ([v], r)
      | _ => none

/-- The fields of a table up to its closing brace. -/
def readFields : Nat → Nat → Fields → List Char → Option (Fields × List Char)
  | 0, _, _, _ => none
  | fuel + 1, depth, fs, cs =>
    match skipBlank false cs with
    | '\x7d' :: r => some (fs, r)
    | cs => do
      let (key, rest) ← readKey cs
      match skipBlank false rest with
      | '=' :: r =>
        let (v, rest) ← readValue fuel depth (skipBlank false r)
        let fs ← assign key v fs
        match skipBlank false rest with
        | ',' :: r => readFields fuel depth fs r
        | '\x7d' :: r => return (fs, r)
        | _ => none
      | _ => none

end

/-- Opens the table that a header names. -/
def openHeader (name : String → Fields → Option Fields) (path : List String) (fs : Fields) :
    Option Fields :=
  match path.getLast? with
  | some k => within (name k) path.dropLast fs
  | none => none

/-- Reads the lines of a document onto its table. `path` is the header in force. -/
def readLines : Nat → List String → Fields → List Char → Option Fields
  | 0, _, _, _ => none
  | fuel + 1, path, fs, cs =>
    match endLine? cs with
    | some [] => some fs
    | some rest => readLines fuel path fs rest
    | none =>
      match skipGap cs with
      | '[' :: '[' :: r => do
        let (key, rest) ← readKey r
        match rest with
        | ']' :: ']' :: rest =>
          let rest ← endLine? rest
          readLines fuel key (← openHeader addTable key fs) rest
        | _ => none
      | '[' :: r => do
        let (key, rest) ← readKey r
        match rest with
        | ']' :: rest =>
          let rest ← endLine? rest
          readLines fuel key (← openHeader openTable key fs) rest
        | _ => none
      | cs => do
        let (key, rest) ← readKey cs
        match rest with
        | '=' :: r =>
          let r := skipGap r
          let (v, rest) ← readValue (2 * r.length + 2) maxDepth r
          let rest ← endLine? rest
          readLines fuel path (← within (assign key v) path fs) rest
        | _ => none

/-- The fields of a document, `none` if the text is no TOML. A byte order mark may stand first. -/
def read? (s : String) : Option Fields :=
  let cs := match s.toList with
    | '\ufeff' :: cs => cs
    | cs => cs
  readLines (cs.length + 1) [] [] cs

end CatalogCrawl.Toml
