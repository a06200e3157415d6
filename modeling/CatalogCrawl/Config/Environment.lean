import CatalogCrawl.Config.DotEnv
import CatalogCrawl.Disk.Basic

/-! # The environment

Variables of the process. A variable of this program that is unset or blank is looked for in the
file `.env`, whose variables then stay set. No variable that is set is ever overwritten. -/

namespace CatalogCrawl

/-- Variables with their values, each name at most once. -/
abbrev Environment := List (String × String)

namespace Environment

/-- The value that is kept under a name. -/
def find? (env : Environment) (name : String) : Option String :=
  (List.find? (·.1 = name) env).map (·.2)

/-- The value of a variable. Variables are looked for in lines such as `NAME=value`, up to an equals
sign after the name asked for, so a name with an equals sign finds the end of a value. -/
def get? (env : Environment) (name : String) : Option String :=
  let cs := name.toList
  let key := cs.takeWhile (· ≠ '=')
  match cs.drop key.length with
  | [] => env.find? name
  | _ :: start => do
    let value := (← env.find? (String.ofList key)).toList
    let start := start ++ ['=']
    if start.isPrefixOf value then some (String.ofList (value.drop start.length)) else none

/-- Sets a variable that is not set. -/
def setIfUnset (env : Environment) (name value : String) : Environment :=
  if (env.get? name).isSome then env else env ++ [(name, value)]

/-- The value of a variable without the blanks around it, if something is left of it. -/
def nonBlank? (env : Environment) (name : String) : Option String :=
  match env.get? name with
  | some v => if Text.allBlank v then none else some (Text.trim v)
  | none => none

/-- Carries out the assignments of the lines of a file, up to the first bad one. `earlier` are the
values that the file has given so far. -/
def loadLines : List (Except Unit (List Char)) → Environment → Environment → Environment
  | [], _, env => env
  | .error () :: _, _, env => env
  | .ok line :: rest, earlier, env =>
    let lookup (name : List Char) : List Char :=
      let name := String.ofList name
      (((env.get? name).or (earlier.find? name)).getD "").toList
    match DotEnv.readLine lookup line with
    | .error () => env
    | .ok none => loadLines rest earlier env
    | .ok (some (key, value)) =>
      let key := String.ofList key
      let value := String.ofList value
      loadLines rest ((key, value) :: earlier) (env.setIfUnset key value)

/-- The lines of a sequence of bytes, with their breaks. -/
def byteLines : List Nat → List (List Nat)
  | [] => []
  | b :: bs =>
    if b = 10 then [b] :: byteLines bs
    else match byteLines bs with
      | line :: rest => (b :: line) :: rest
      | [] => [[b]]

/-- The lines of a file, `none` for those that are not text. A byte order mark at the start
is passed over. -/
def contentLines : Content → List (Option (List Char))
  | .text s =>
    let bytes := Text.Utf8.encode s.toList
    (byteLines (dropMark bytes)).map Text.Utf8.decode
  | .bytes bs => (byteLines (dropMark bs)).map Text.Utf8.decode
  | .store _ => [none]
where
  dropMark : List Nat → List Nat
    | 0xef :: 0xbb :: 0xbf :: bs => bs
    | bs => bs

/-- The environment after the file at a path has been read, if it is a file. -/
def load (disk : Disk) (path : String) (env : Environment) : Option Environment :=
  match disk.resolve path with
  | .ok (_, .file content) =>
    some (loadLines (DotEnv.joinLines (contentLines content) [] .complete) [] env)
  | _ => none

/-- The variable of this program for a key. -/
def variableOf (key : String) : String := s!"APPCRAWL_{key}"

/-- The value for a key, and the environment after it has been looked for in `dir`. -/
def lookup (disk : Disk) (dir key : String) (env : Environment) : Option String × Environment :=
  match env.nonBlank? (variableOf key) with
  | some v => (some v, env)
  | none =>
    match env.load disk (Path.join dir ".env") with
    | some env => (env.nonBlank? (variableOf key), env)
    | none => (none, env)

end Environment

end CatalogCrawl
