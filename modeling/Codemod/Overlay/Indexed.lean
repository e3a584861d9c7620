import Codemod.Overlay.Commit
import Mathlib.Data.Prod.Lex
import Mathlib.Order.WithBot

/-!
# Overlays with indexes

An overlay as it is kept in memory: two maps tell at which place of its list the file or the record
of a path stands, so that nothing has to be searched for. The changes are put in order by these
places.

## Main definitions

* `Indexed` — an overlay with its indexes.
* `Indexed.changes` — the changes, sorted.
* `Call`, `Indexed.perform`, `Overlay.perform` — what can be asked of either kind of overlay.
-/

namespace Codemod.Overlay

structure Indexed where
  root : String
  files : List ProjectFile := []
  /-- The places of files by their paths. -/
  index : Std.HashMap String Nat := {}
  records : List Change := []
  /-- The places of records by their paths. -/
  recordIndex : Std.HashMap String Nat := {}

namespace Indexed

def clear (o : Indexed) : Indexed :=
  { root := o.root }

/-! ## Lookup -/

/-- The file of the snapshot at a path in project form. -/
def file? (o : Indexed) (path : String) : Option ProjectFile :=
  o.index[path]?.bind fun n => o.files[n]?

/-- The file of the snapshot at a path. -/
def baseline? (o : Indexed) (path : String) : Option ProjectFile :=
  o.file? (Path.normalize path)

/-- The record of a path in project form. -/
def record? (o : Indexed) (path : String) : Option Change :=
  o.recordIndex[path]?.bind fun n => o.records[n]?

/-- The record of a path. -/
def change? (o : Indexed) (path : String) : Option Change :=
  o.record? (Path.normalize path)

/-- The content at a path in project form. -/
def current? (o : Indexed) (path : String) : Option String :=
  match o.record? path with
  | none => (o.file? path).map (·.content)
  | some c =>
    if !c.isDeletion then some c.content
    else if !c.isNet && o.index.contains path then some ""
    else none

/-- The content at a path. -/
def read? (o : Indexed) (path : String) : Option String :=
  o.current? (Path.normalize path)

def contains (o : Indexed) (path : String) : Bool :=
  (o.read? path).isSome

/-- The files in a folder or, if `recursive`, anywhere below it. -/
def list (o : Indexed) (path : String) (recursive : Bool) : List String :=
  let dir := Path.normalize path
  let dir := if dir = "." then "" else dir
  let isIn (p : String) : Bool :=
    if recursive then Path.isWithin (Path.folder p) dir else Path.folder p = dir
  let created := (o.records.filter fun c => !o.index.contains c.path).map (·.path)
  (o.files.map (·.path) ++ created).filter fun p => isIn p && (o.current? p).isSome

/-! ## Changes -/

/-- By what changes are sorted: the place of the file in the snapshot, which comes after all others
if there is none, and then the place of the record. -/
abbrev Rank := WithTop Nat ×ₗ Nat

/-- The rank of the record that was made as the `created`-th. -/
def rank (o : Indexed) (created : Nat) (c : Change) : Rank :=
  toLex (match o.index[c.path]? with | some n => WithTop.some n | none => ⊤, created)

/-- The records that differ from the snapshot, by their ranks. -/
def changes (o : Indexed) : List Change :=
  let net := o.records.zipIdx.filter fun x => x.1.isNet
  let ranked := net.map fun x => (o.rank x.2 x.1, x.1)
  (ranked.mergeSort fun x y => decide (x.1 ≤ y.1)).map (·.2)

def hasChanges (o : Indexed) : Bool :=
  o.records.any Change.isNet

def events (o : Indexed) : List Event :=
  o.changes.map Change.toEvent

/-! ## Edits -/

/-- Adds a file to the snapshot, in the place of one with the same path if there is one. -/
def insert (o : Indexed) (f : ProjectFile) : Indexed :=
  let f := { f with path := Path.normalize f.path }
  match o.index[f.path]? with
  | some n => { o with files := o.files.set n f }
  | none =>
    { o with
      files := o.files ++ [f]
      index := o.index.insert f.path o.files.length }

/-- Gives a path a content; empty content deletes it. -/
def add (o : Indexed) (path content : String) : Indexed :=
  let path := Path.normalize path
  match o.recordIndex[path]? with
  | some n => { o with records := o.records.modify n ({ · with content }) }
  | none =>
    let before := ((o.baseline? path).map (·.content)).getD ""
    if before = content then o
    else
      { o with
        records := o.records ++ [{ path, before, content }]
        recordIndex := o.recordIndex.insert path o.records.length }

def delete (o : Indexed) (path : String) : Indexed :=
  o.add path ""

/-- Brings all changes to the disk. -/
def commit (o : Indexed) (d : Disk) : Disk × Indexed × Except Failure Report :=
  match commitAll o.root {} o.changes d with
  | (d, .ok r) => (d, { o with records := [], recordIndex := {} }, .ok r)
  | (d, .error f) => (d, o, .error f)

end Indexed

/-! ## Calls -/

/-- What can be asked of an overlay. -/
inductive Call where
  | insert (f : ProjectFile)
  | add (path content : String)
  | delete (path : String)
  | clear
  | commit (d : Disk)

/-- The overlay after a call. -/
def Indexed.perform (o : Indexed) : Call → Indexed
  | .insert f => o.insert f
  | .add path content => o.add path content
  | .delete path => o.delete path
  | .clear => o.clear
  | .commit d => (o.commit d).2.1

/-- The overlay after a call. -/
def perform (o : Overlay) : Call → Overlay
  | .insert f => o.insert f
  | .add path content => o.add path content
  | .delete path => o.delete path
  | .clear => o.clear
  | .commit d => (o.commit d).2.1

end Codemod.Overlay
