import Codemod.Source.Import
import Codemod.Source.Statement
import Codemod.Text.Bytes
import Codemod.Text.Quoted

/-!
# Source units

A source with its path and its syntax tree. The path decides the language. Edits replace a range of
bytes, and the new text is parsed with the tree of the old one at hand.

## Main definitions

* `SourceUnit.parse` — the unit of a text.
* `SourceUnit.imports` — its import statements.
* `SourceUnit.replace` — the unit after an edit.
-/

namespace Codemod

open Source (Language Languages Span)

structure SourceUnit where
  path : String
  text : String
  language : Language := Languages.standard.of path
  tree : Source.Node := language.parse none text
  deriving Inhabited

/-- An edit whose range is not one of whole characters within the source. -/
structure InvalidEdit where
  path : String
  range : Span
  deriving DecidableEq

def InvalidEdit.reason (e : InvalidEdit) : String :=
  "range " ++ toString e.range.start ++ ".." ++ toString e.range.stop ++
    " is outside the source or splits a character"

namespace SourceUnit

open Source

def parse (languages : Languages) (path text : String) : SourceUnit :=
  { path, text, language := languages.of path }

/-- The import statements at the top of the tree. -/
def imports (u : SourceUnit) : Except Cut (List Import) :=
  u.tree.imports u.text

/-- Whether the source breaks the rules of the language. -/
def hasErrors (u : SourceUnit) : Bool :=
  u.tree.hasError

/-- The number of bytes. -/
def size (u : SourceUnit) : Nat :=
  u.text.utf8ByteSize

/-- Where the tree begins and ends. -/
def extent (u : SourceUnit) : Span :=
  u.tree.span

/-- The text of a range. -/
def slice? (u : SourceUnit) (r : Span) : Option String :=
  Source.slice? u.text r

/-- The unit with `new` in the place of `old`; its text is `front`, `old` and `back`. -/
def exchange (u : SourceUnit) (front old back : List Char) (new : String) : SourceUnit :=
  let text := String.ofList front ++ new ++ String.ofList back
  { u with
    text
    tree := u.language.parse (some (u.tree, .after front old new.toList)) text }

/-- The unit with the bytes of a range replaced. -/
def replace (u : SourceUnit) (r : Span) (new : String) : Except InvalidEdit SourceUnit :=
  let bad : InvalidEdit := { path := u.path, range := r }
  if r.start ≤ r.stop then
    match splitAt? r.start u.text.toList with
    | none => .error bad
    | some (front, rest) =>
      match splitAt? r.size rest with
      | none => .error bad
      | some (old, back) => .ok (u.exchange front old back new)
  else .error bad

/-- A line about the unit, for messages. -/
def summary (u : SourceUnit) : String :=
  "SourceUnit \x7b path: " ++ Text.quoted u.path ++ ", len: " ++ toString u.size ++
    ", has_errors: " ++ toString u.hasErrors ++ " \x7d"

end SourceUnit

end Codemod
