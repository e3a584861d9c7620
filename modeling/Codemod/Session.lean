import Codemod.Disk.Walk
import Codemod.Overlay.Commit
import Codemod.Session.Turn

/-!
# Sessions

A session updates the project below a folder, as often as it is asked to. A run takes a snapshot of
the files, lets every file have its turn, and leaves the changes in the overlay. Only a commit
touches the disk.

## Main definitions

* `Session.update` — one run, and the events it publishes.
* `Session.commit` — brings the changes of the last run to the disk.
-/

namespace Codemod

inductive RunState where
  | idle
  | finished
  | canceled
  | errored
  deriving DecidableEq, Inhabited

structure Session where
  updaters : List Updater
  skipDirs : List String := ["node_modules"]
  onError : OnError := .abort
  overlay : Overlay
  canceled : Bool := false
  state : RunState := .idle
  skipped : List Skipped := []

namespace Session

def root (s : Session) : String :=
  s.overlay.root

/-- Folders with this name are not entered either. -/
def skipDir (s : Session) (name : String) : Session :=
  if s.skipDirs.contains name then s else { s with skipDirs := s.skipDirs ++ [name] }

/-- The name of the updater that claims a path. -/
def updaterFor? (s : Session) (path : String) : Option String :=
  (s.updaters.find? (·.supports path)).map Updater.name

/-- Asks for the run to be canceled. -/
def cancel (s : Session) : Session :=
  { s with canceled := true }

def changes (s : Session) : List Change :=
  s.overlay.changes

/-- Forgets all that earlier runs have left. -/
def reset (s : Session) : Session :=
  { s with
    updaters := s.updaters.map Updater.reset
    overlay := s.overlay.clear
    canceled := false
    state := .idle
    skipped := [] }

/-- The beginning of a phase. -/
def phase (title : String) : Event :=
  .query .zero title

/-- Adds the files at the given paths to the snapshot. -/
def readAll (d : Disk) (o : Overlay) : List String → Except Failure Overlay
  | [] => .ok o
  | path :: rest =>
    let place := Path.join o.root path
    match d.read place with
    | .error f => .error (.io place f)
    | .ok b => readAll d (o.insert (.ofBytes path b)) rest

/-- What a run comes to. -/
structure Run where
  session : Session
  /-- All events, in the order in which they were published. -/
  events : List Event
  /-- What plugins have noted. -/
  notes : List Json := []

/-- A run that has failed after some events leaves nothing behind. -/
def fail (s : Session) (events : List Event) (notes : List Json) (f : Failure) : Run :=
  { session := { s.reset with state := .errored }
    events := events ++ [phase ("An error occurred. " ++ f.message)]
    notes }

/-- The part of a run that comes after the snapshot, which `s` holds already. -/
def transformAll (s : Session) (signals : Signals) (events : List Event) : Run :=
  let files := s.overlay.files
  let events := events ++ [phase "Updating files..."]
  let host : Host := { overlay := s.overlay, canceled := s.canceled }
  let (done, p, ending) :=
    turns s.onError signals files.length 0 files { updaters := s.updaters, host }
  let s := { s with
    updaters := p.updaters
    overlay := p.overlay
    canceled := p.host.canceled
    skipped := p.skipped }
  let events := events ++ done
  match ending with
  | .failed f => s.fail events p.host.notes f
  | .canceled =>
    { session := { s with state := .canceled }
      events := events ++ p.overlay.events ++ [phase "Update canceled."]
      notes := p.host.notes }
  | .finished =>
    { session := { s with state := .finished }
      events := events ++ p.overlay.events ++ [.query Event.finished "Update finished."]
      notes := p.host.notes }

/-- One run. -/
def update (s : Session) (d : Disk) (signals : Signals) : Run :=
  let s := s.reset
  if d.isFolder s.root then
    let events := [phase "Initializing..."]
    match d.walk s.root s.skipDirs with
    | .error f => s.fail events [] f
    | .ok paths =>
      let events := events ++ [phase "Reading files..."]
      match readAll d s.overlay paths with
      | .error f => s.fail events [] f
      | .ok overlay => transformAll { s with overlay } signals events
  else
    { session := { s with state := .errored }
      events := [phase (Failure.notADirectory s.root).message] }

/-- Brings the changes of the last run to the disk. -/
def commit (s : Session) (d : Disk) : Disk × Session × Except Failure Report :=
  let (d, overlay, r) := s.overlay.commit d
  (d, { s with overlay }, r)

end Session

end Codemod
