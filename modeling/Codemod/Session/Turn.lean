import Codemod.Config
import Codemod.Updater

/-!
# Turns

In a run every file of the snapshot has its turn: it is read from the overlay as it is by then,
handed to the first updater that claims it, and the result is put back. Between the two the run may
be canceled.

## Main definitions

* `dispatch` — hands a document to the first updater that claims it.
* `Pass.transform` — what becomes of one file.
* `turns` — the turns of all files.
-/

namespace Codemod

/-- A file that was left as it is because it failed. -/
structure Skipped where
  path : String
  reason : String
  deriving DecidableEq, Inhabited

/-- What the turns work on. -/
structure Pass where
  updaters : List Updater
  host : Host
  skipped : List Skipped := []

/-- Hands a document to the first updater that claims its path, if there is one. -/
def dispatch (path src : String) :
    List Updater → Host → Option (Except Failure String × List Updater × Host)
  | [], _ => none
  | u :: rest, h =>
    if u.supports path then
      let (r, u, h) := u.update path src h
      some (r, u :: rest, h)
    else (dispatch path src rest h).map fun (r, us, h) => (r, u :: us, h)

/-- What is done to the wish to cancel, from outside, during the turn of each file. -/
abbrev Signals := Nat → Option Bool

/-- Nobody interferes. -/
def Signals.none : Signals := fun _ => Option.none

namespace Pass

def overlay (p : Pass) : Overlay :=
  p.host.overlay

/-- The new content of a file, or nothing if it has been deleted or is skipped. -/
def transform (onError : OnError) (path : String) (p : Pass) :
    Except Failure (Option String) × Pass :=
  match p.overlay.read? path with
  | none => (.ok none, p)
  | some src =>
    match dispatch path src p.updaters p.host with
    | none => (.ok (some src), p)
    | some (.ok content, updaters, host) => (.ok (some content), { p with updaters, host })
    | some (.error f, updaters, host) =>
      let p := { p with updaters, host }
      match onError with
      | .abort => (.error f, p)
      | .skipFile =>
        (.ok none, { p with skipped := p.skipped ++ [{ path, reason := f.message }] })

/-- What is done from outside. -/
def signal (flag : Option Bool) (p : Pass) : Pass :=
  match flag with
  | none => p
  | some b => { p with host := { p.host with canceled := b } }

/-- Puts the content of a file into the overlay. -/
def merge (path : String) (content : Option String) (p : Pass) : Pass :=
  match content with
  | none => p
  | some c => { p with host := { p.host with overlay := p.overlay.add path c } }

/-- The first half of a turn, before it is decided whether the run goes on. A file that is not text
is passed over. -/
def begin (onError : OnError) (signals : Signals) (i : Nat) (f : ProjectFile) (p : Pass) :
    Except Failure (Option String) × Pass :=
  let (r, p) := if f.binary then (.ok none, p) else p.transform onError f.path
  (r, p.signal (signals i))

end Pass

/-- How the turns come to an end. -/
inductive Ending where
  | finished
  | canceled
  | failed (f : Failure)

/-- The event that tells that the `i`-th of `total` files is done. -/
def turnEvent (i total : Nat) (path : String) : Event :=
  .determinate (.ofRatio (i + 1) total) ("Updating " ++ path ++ "...")

/-- The turns of files, the first of which is the `i`-th of `total`: the events of those that were
completed, what was worked on afterwards, and why the turns ended. -/
def turns (onError : OnError) (signals : Signals) (total : Nat) :
    (i : Nat) → List ProjectFile → Pass → List Event × Pass × Ending
  | _, [], p => ([], p, .finished)
  | i, f :: rest, p =>
    match p.begin onError signals i f with
    | (.error e, p) => ([], p, .failed e)
    | (.ok content, p) =>
      if p.host.canceled then ([], p, .canceled)
      else
        let (events, p, ending) := turns onError signals total (i + 1) rest (p.merge f.path content)
        (turnEvent i total f.path :: events, p, ending)

end Codemod
