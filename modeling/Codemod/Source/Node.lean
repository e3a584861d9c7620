import Codemod.Source.Token
import Codemod.Text.Search

/-!
# Syntax trees

A parser makes a tree of a text. The nodes of the tree tell what they are, which field of their
parent they fill, and where they begin and end. The parser comes with the language and is taken as
it is; when a text has been edited it is also given the tree of the text before and the edit.

## Main definitions

* `Node` — a node with all that is below it.
* `Edit` — where a text has been edited.
* `Language` — a parser.
* `Languages.of` — the language of a path.
-/

namespace Codemod.Source

/-- A range of bytes. -/
structure Span where
  start : Nat
  stop : Nat
  deriving DecidableEq, Inhabited

/-- How many bytes there are in a range. -/
def Span.size (r : Span) : Nat :=
  r.stop - r.start

structure Node where
  kind : String
  /-- The field of its parent that the node fills. -/
  field? : Option String := none
  span : Span
  /-- Whether there is an error in the node or below it. -/
  hasError : Bool := false
  children : List Node := []
  deriving Inhabited

/-- The first child that fills a field. -/
def Node.child? (n : Node) (field : String) : Option Node :=
  n.children.find? (·.field? = some field)

/-! ## Edits -/

/-- A place in a text by line and by byte of the line. -/
structure Point where
  row : Nat
  column : Nat
  deriving DecidableEq, Inhabited

/-- The place after some text. -/
def Point.after (front : List Char) : Point :=
  { row := front.count '\n', column := byteSize (front.reverse.takeWhile (· ≠ '\n')) }

/-- The bytes from `start` on have been replaced; they ended at `oldStop`, and what has come in
their place ends at `newStop`. -/
structure Edit where
  start : Nat
  oldStop : Nat
  newStop : Nat
  startPoint : Point
  oldStopPoint : Point
  newStopPoint : Point
  deriving DecidableEq, Inhabited

/-- After `front`, `new` has come in the place of `old`. -/
def Edit.after (front old new : List Char) : Edit where
  start := byteSize front
  oldStop := byteSize (front ++ old)
  newStop := byteSize (front ++ new)
  startPoint := .after front
  oldStopPoint := .after (front ++ old)
  newStopPoint := .after (front ++ new)

/-! ## Languages -/

/-- A language is known by its parser, which has a tree for every text, with errors in it or
without. -/
structure Language where
  parse : (previous : Option (Node × Edit)) → (text : String) → Node
  deriving Inhabited

/-- The languages that sources are written in. -/
structure Languages where
  typescript : Language
  tsx : Language
  deriving Inhabited

/-- The language that a path decides on. -/
def Languages.of (ls : Languages) (path : String) : Language :=
  if hasEnd path ".tsx" then ls.tsx else ls.typescript

end Codemod.Source
