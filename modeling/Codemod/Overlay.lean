import Codemod.Event
import Codemod.Patch.Unified
import Codemod.Path
import Codemod.Text.Bytes

/-!
# Overlays

A project in memory while a run is going on: a snapshot of its files, and on top of it a record for
every path that has been given another content. Reading sees the records first. Empty content
stands for a file that is deleted.

## Main definitions

* `Overlay.insert` — builds up the snapshot.
* `Overlay.current?`, `Overlay.list` — what the project looks like now.
* `Overlay.add` — changes a file.
* `Overlay.changes` — what is different from the snapshot.
-/

namespace Codemod

/-- A file as it was when the run started. -/
structure ProjectFile where
  path : String
  content : String
  /-- The file is not text; `content` only shows what could be read of it. -/
  binary : Bool := false
  deriving DecidableEq, Inhabited

def ProjectFile.ofBytes (path : String) (b : Bytes) : ProjectFile :=
  match b.toText? with
  | some s => { path, content := s }
  | none => { path, content := b.toLossyText, binary := true }

/-- A path with its content before the run and the latest content it has been given. -/
structure Change where
  path : String
  before : String
  content : String
  deriving DecidableEq, Inhabited

namespace Change

/-- Empty content stands for a file that is deleted. -/
def isDeletion (c : Change) : Bool :=
  c.content = ""

/-- Whether the latest content is another one than before the run. -/
def isNet (c : Change) : Bool :=
  c.before ≠ c.content

def diff (c : Change) : String :=
  Patch.unified c.path c.before c.content

def toEvent (c : Change) : Event :=
  .file c.path c.diff

end Change

structure Overlay where
  /-- Where the project is on disk. -/
  root : String
  /-- The snapshot, in the order of the walk. -/
  files : List ProjectFile := []
  /-- At most one record for a path, in the order in which they were made. -/
  records : List Change := []
  deriving DecidableEq, Inhabited

namespace Overlay

/-- Without a snapshot and without changes. -/
def clear (o : Overlay) : Overlay :=
  { root := o.root }

/-! ## The snapshot -/

def insertFile (f : ProjectFile) : List ProjectFile → List ProjectFile
  | [] => [f]
  | g :: rest => if g.path = f.path then f :: rest else g :: insertFile f rest

/-- Adds a file to the snapshot, in the place of one with the same path if there is one. -/
def insert (o : Overlay) (f : ProjectFile) : Overlay :=
  { o with files := insertFile { f with path := Path.normalize f.path } o.files }

/-- The file of the snapshot at a path in project form. -/
def file? (o : Overlay) (path : String) : Option ProjectFile :=
  o.files.find? (·.path = path)

/-- The file of the snapshot at a path. -/
def baseline? (o : Overlay) (path : String) : Option ProjectFile :=
  o.file? (Path.normalize path)

/-! ## Records and changes -/

/-- The record of a path in project form. -/
def record? (o : Overlay) (path : String) : Option Change :=
  o.records.find? (·.path = path)

/-- The record of a path. -/
def change? (o : Overlay) (path : String) : Option Change :=
  o.record? (Path.normalize path)

/-- The records of paths that are not in the snapshot. -/
def created (o : Overlay) : List Change :=
  o.records.filter fun c => (o.file? c.path).isNone

/-- The records that differ from the snapshot: first the files of the snapshot in its order, then
the others in the order in which they were made. -/
def changes (o : Overlay) : List Change :=
  (o.files.filterMap (o.record? ·.path) ++ o.created).filter Change.isNet

def hasChanges (o : Overlay) : Bool :=
  o.records.any Change.isNet

/-- One event for every change. -/
def events (o : Overlay) : List Event :=
  o.changes.map Change.toEvent

/-! ## The project as it is now -/

/-- The content at a path in project form. A file of the snapshot that is empty stays there when it
is deleted. -/
def current? (o : Overlay) (path : String) : Option String :=
  match o.record? path with
  | none => (o.file? path).map (·.content)
  | some c =>
    if !c.isDeletion then some c.content
    else if !c.isNet && (o.file? path).isSome then some ""
    else none

/-- The content at a path. -/
def read? (o : Overlay) (path : String) : Option String :=
  o.current? (Path.normalize path)

def contains (o : Overlay) (path : String) : Bool :=
  (o.read? path).isSome

/-- The files in a folder or, if `recursive`, anywhere below it. -/
def list (o : Overlay) (path : String) (recursive : Bool) : List String :=
  let dir := Path.normalize path
  let dir := if dir = "." then "" else dir
  let isIn (p : String) : Bool :=
    if recursive then Path.isWithin (Path.folder p) dir else Path.folder p = dir
  (o.files.map (·.path) ++ o.created.map (·.path)).filter fun p =>
    isIn p && (o.current? p).isSome

def setContent (path content : String) : List Change → List Change
  | [] => []
  | c :: rest =>
    if c.path = path then { c with content } :: rest else c :: setContent path content rest

/-- Gives a path a content; empty content deletes it. Nothing is recorded for a path that has no
record and this content already. -/
def add (o : Overlay) (path content : String) : Overlay :=
  let path := Path.normalize path
  if (o.record? path).isSome then { o with records := setContent path content o.records }
  else
    let before := ((o.baseline? path).map (·.content)).getD ""
    if before = content then o
    else { o with records := o.records ++ [{ path, before, content }] }

def delete (o : Overlay) (path : String) : Overlay :=
  o.add path ""

end Overlay

end Codemod
