import Codemod.Disk
import Codemod.Failure
import Codemod.Overlay

/-!
# Committing changes

The changes of an overlay are brought to the disk one after the other. The first that fails ends
the commit; those before it have been made.

## Main definitions

* `Change.commit` — brings one change to the disk.
* `Overlay.commit` — brings all changes to the disk.
-/

namespace Codemod

/-- The paths that a commit has touched. -/
structure Report where
  written : List String := []
  deleted : List String := []
  deriving DecidableEq, Inhabited

def Report.add (r : Report) (c : Change) : Report :=
  if c.isDeletion then { r with deleted := r.deleted ++ [c.path] }
  else { r with written := r.written ++ [c.path] }

/-- Removes the file of a deletion; it does not matter if it is gone already. -/
def Change.commitDeletion (path : String) (d : Disk) : Disk × Option Failure :=
  match d.remove path with
  | .ok d => (d, none)
  | .error .noEntry => (d, none)
  | .error f => (d, some (.io path f))

/-- Makes the folder that a file is to be in, unless it is there. -/
def Change.prepare (path : String) (d : Disk) : Disk × Option Failure :=
  match Path.parent? path with
  | none => (d, none)
  | some folder =>
    if d.isFolder folder then (d, none)
    else
      match d.makeFolders folder with
      | (d, none) => (d, none)
      | (d, some f) => (d, some (.io folder f))

/-- Writes the file of a change that is no deletion. -/
def Change.commitContent (path content : String) (d : Disk) : Disk × Option Failure :=
  match Change.prepare path d with
  | (d, some f) => (d, some f)
  | (d, none) =>
    match d.write path (Bytes.ofText content) with
    | .ok d => (d, none)
    | .error f => (d, some (.io path f))

/-- Brings one change to the disk. -/
def Change.commit (root : String) (c : Change) (d : Disk) : Disk × Option Failure :=
  let path := Path.join root c.path
  if c.isDeletion then Change.commitDeletion path d else Change.commitContent path c.content d

/-- Brings changes to the disk, in order, until one fails. -/
def commitAll (root : String) (r : Report) : List Change → Disk → Disk × Except Failure Report
  | [], d => (d, .ok r)
  | c :: rest, d =>
    match c.commit root d with
    | (d, some f) => (d, .error f)
    | (d, none) => commitAll root (r.add c) rest d

/-- Brings all changes to the disk. Only when all of them are there are the records dropped. -/
def Overlay.commit (o : Overlay) (d : Disk) : Disk × Overlay × Except Failure Report :=
  match commitAll o.root {} o.changes d with
  | (d, .ok r) => (d, { o with records := [] }, .ok r)
  | (d, .error f) => (d, o, .error f)

end Codemod
