import Codemod.Format
import Codemod.Plugin

/-!
# Updaters

An updater reads a document, hands its node from plugin to plugin, and writes what has become of
it. A document that no plugin has changed keeps its text to the letter, however a document would be
written anew.

## Main definitions

* `runPlugins` — the node after all plugins.
* `Updater.update` — the text of a document after all plugins.
-/

namespace Codemod

structure Updater where
  kind : Kind
  format : Format kind
  plugins : List (Plugin kind.Node) := []
  writer : Writer kind := .standard

/-- What plugins have made of a document. -/
inductive Result (N : Type) where
  | node (n : N)
  | deleted

/-- Runs plugins in order; the first of them has the number `index`. -/
def runPlugins (path : String) :
    (index : Nat) → List (Plugin N) → N → Host → Except Failure (Result N) × Host
  | _, [], node, h => (.ok (.node node), h)
  | index, p :: rest, node, h =>
    match (p node path).run h with
    | (.error reasons, h) => (.error (.plugin path index reasons), h)
    | (.ok .unchanged, h) => runPlugins path (index + 1) rest node h
    | (.ok (.replace next), h) => runPlugins path (index + 1) rest next h
    | (.ok .delete, h) => (.ok .deleted, h)

namespace Updater

def name (u : Updater) : String :=
  u.kind.name

def supports (u : Updater) (path : String) : Bool :=
  u.format.supports path

def reset (u : Updater) : Updater :=
  { u with format := u.format.reset }

/-- What is done before the first plugin. The document is read twice: first to see how it is written
untouched, then for the plugins. -/
def prepare (u : Updater) (path src : String) :
    Except Failure (String × u.kind.Node) × Format u.kind :=
  let (first, format) := u.format.parse path src
  match first with
  | .error f => (.error f, format)
  | .ok untouched =>
    match format.serialize u.writer path untouched with
    | .error f => (.error f, format)
    | .ok roundTrip =>
      let (second, format) := format.parse path src
      (second.map fun node => (roundTrip, node), format)

/-- The new text of a document: `src` itself if nothing has changed, and nothing at all if its file
is to be deleted. -/
def update (u : Updater) (path src : String) (h : Host) :
    Except Failure String × Updater × Host :=
  let (prepared, format) := u.prepare path src
  let u' := { u with format }
  match prepared with
  | .error f => (.error f, u', h)
  | .ok (roundTrip, node) =>
    match runPlugins path 0 u.plugins node h with
    | (.error f, h) => (.error f, u', h)
    | (.ok .deleted, h) => (.ok "", u', h)
    | (.ok (.node result), h) =>
      match format.serialize u.writer path result with
      | .error f => (.error f, u', h)
      | .ok text => (.ok (if text = roundTrip then src else text), u', h)

end Updater

end Codemod
