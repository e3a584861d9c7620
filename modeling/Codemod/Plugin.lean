import Codemod.Json.Value
import Codemod.Overlay

/-!
# Plugins

A plugin is given the node of a document and its path, and says what becomes of the document. While
it does so it may look at the project and change other files; all it can do to the project is in
its script.

## Main definitions

* `Script` — a computation that asks things of the project.
* `Script.run` — what it comes to, and what the project is like afterwards.
* `Plugin` — from node and path to the script of an outcome.
-/

namespace Codemod

/-- What plugins work on. -/
structure Host where
  overlay : Overlay
  /-- Whether the run is to be canceled. -/
  canceled : Bool := false
  /-- What plugins have noted, oldest first. -/
  notes : List Json := []
  deriving Inhabited

inductive Script (α : Type) where
  | done (a : α)
  | contains (path : String) (next : Bool → Script α)
  | list (path : String) (recursive : Bool) (next : List String → Script α)
  | read (path : String) (next : Option String → Script α)
  | add (path content : String) (next : Script α)
  | delete (path : String) (next : Script α)
  /-- Asks for the run to be canceled, or takes that back. -/
  | cancel (flag : Bool) (next : Script α)
  /-- Leaves a note for those who look on. -/
  | note (v : Json) (next : Script α)

namespace Script

def bind : Script α → (α → Script β) → Script β
  | done a, f => f a
  | contains p next, f => contains p fun b => (next b).bind f
  | list p r next, f => list p r fun l => (next l).bind f
  | read p next, f => read p fun c => (next c).bind f
  | add p c next, f => add p c (next.bind f)
  | delete p next, f => delete p (next.bind f)
  | cancel b next, f => cancel b (next.bind f)
  | note v next, f => note v (next.bind f)

instance : Monad Script where
  pure := done
  bind := bind

/-- The result of a script, and its host afterwards. -/
def run : Script α → Host → α × Host
  | done a, h => (a, h)
  | contains p next, h => (next (h.overlay.contains p)).run h
  | list p r next, h => (next (h.overlay.list p r)).run h
  | read p next, h => (next (h.overlay.read? p)).run h
  | add p c next, h => next.run { h with overlay := h.overlay.add p c }
  | delete p next, h => next.run { h with overlay := h.overlay.delete p }
  | cancel b next, h => next.run { h with canceled := b }
  | note v next, h => next.run { h with notes := h.notes ++ [v] }

end Script

/-- What becomes of a document. -/
inductive Outcome (N : Type) where
  | unchanged
  /-- The document goes on as another node. -/
  | replace (node : N)
  /-- No other plugin sees the document, and its file is deleted. -/
  | delete

/-- A plugin that fails gives its reasons, from the outermost to the first cause. One that breaks
off and takes the program with it has none to give. -/
abbrev Plugin (N : Type) :=
  N → (path : String) → Script (Except (List String) (Outcome N))

end Codemod
