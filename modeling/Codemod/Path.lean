import Codemod.Text.Search

/-!
# Paths

Inside a project a path is relative to the root, with `/` between its segments. On disk it is
whatever the root joined with it names.

## Main definitions

* `normalize` — the project form of a path.
* `folder`, `isWithin`, `isSkipped` — on paths in project form.
* `join`, `parent?`, `ancestors` — on paths on disk.
-/

namespace Codemod.Path

/-- Without any `./` at the front. -/
def dropHere : List Char → List Char
  | '.' :: '/' :: rest => dropHere rest
  | s => s

/-- Without any `/` at the end. -/
def dropFinalSlashes (s : List Char) : List Char :=
  (s.reverse.dropWhile (· = '/')).reverse

/-- The project form of a path: forward slashes, no `./` at the front, no `/` at the end. -/
def normalize (path : String) : String :=
  String.ofList
    (dropFinalSlashes (dropHere (path.toList.map fun c => if c = '\\' then '/' else c)))

/-- The segments between the slashes, at least one. -/
def segments (path : String) : List String :=
  pieces path "/"

/-- What stands before the last slash; empty for a path at the root. -/
def folder (path : String) : String :=
  String.ofList ((path.toList.reverse.dropWhile (· ≠ '/')).drop 1).reverse

/-- Whether the folder `path` is `base` or lies below it; everything is within the root. -/
def isWithin (path base : String) : Bool :=
  base = "" || path = base || hasStart path (base ++ "/")

/-- Whether a segment of the path is one of `names`. -/
def isSkipped (path : String) (names : List String) : Bool :=
  (segments path).any (names.contains ·)

/-! ## On disk -/

def isAbsolute (path : String) : Bool :=
  hasStart path "/"

/-- The place of `path` as seen from `base`. -/
def join (base path : String) : String :=
  if isAbsolute path || base = "" then path
  else if hasEnd base "/" then base ++ path
  else base ++ "/" ++ path

/-- Whether a segment leads nowhere else. -/
def isIdle (segment : String) : Bool :=
  segment = "" || segment = "."

def dropFinalIdle (l : List String) : List String :=
  (l.reverse.dropWhile isIdle).reverse

/-- The path of the folder that `path` is in; idle segments at either end of the last step are
left out. Neither nothing nor the topmost folder has one. -/
def parent? (path : String) : Option String :=
  match segments path with
  | [] => none
  | first :: rest =>
    match dropFinalIdle rest with
    | [] => if first = "" then none else some ""
    | rest =>
      let above := "/".intercalate (first :: dropFinalIdle rest.dropLast)
      some (if above = "" && isAbsolute path then "/" else above)

/-- The path and the folders on the way to it, longest first; the place where one stands is left
out. -/
def ancestors (path : String) : List String :=
  let front := if isAbsolute path then "/" else ""
  let rec go (above : List String) (found : List String) : List String → List String
    | [] => found
    | s :: rest => go (above ++ [s]) ((front ++ "/".intercalate (above ++ [s])) :: found) rest
  go [] [] ((segments path).filter (!isIdle ·))

end Codemod.Path
