import Codemod.Disk
import Codemod.Failure

/-!
# Walking a folder

All files below a folder: depth first, the entries of a folder in the order of their names, links
followed. Folders with certain names are not entered. A file is told by its names as text, also
where these are none, so that files may be told by the same path.
-/

namespace Codemod.Disk

/-- The files below `path`, told from the folder that the walk began in, from where `path` is
`rel`. The walk goes at most `depth` folders deep. -/
def walkFrom (d : Disk) (skip : List String) :
    (depth : Nat) → (path : OsPath) → (rel : String) → Except Failure (List String)
  | 0, path, _ => .error (.io path.shown .nameTooLong)
  | depth + 1, path, rel =>
    match d.names path with
    | .error f => .error (.io path.shown f)
    | .ok names => do
      let found ← names.mapM fun name =>
        let child := path.join name
        let childRel := if rel = "" then name.shown else rel ++ "/" ++ name.shown
        match d.stat child with
        | .error f => .error (.io child.shown f)
        | .ok .folder =>
          if Path.isSkipped childRel skip then .ok [] else walkFrom d skip depth child childRel
        | .ok _ => .ok [childRel]
      return found.flatten

/-- The files below `root`. Every folder makes a path longer, so that the limit on the length of
paths ends every walk. -/
def walk (d : Disk) (root : String) (skip : List String) : Except Failure (List String) :=
  d.walkFrom skip pathLimit root ""

end Codemod.Disk
