import Codemod.Json.Writer
import Codemod.Text.Indent
import Codemod.Text.LineEnding

/-!
# The layout of JSON documents

How a document is laid out: its unit of indentation and its line ending. Both are taken from the
source, so that a document that is written again looks as before.
-/

namespace Codemod.Json

structure Layout where
  unit : String
  eol : LineEnding
  deriving DecidableEq, Inhabited

/-- The layout of a source; `unit` is used where it shows no indentation. -/
def Layout.detect (unit : String) (src : String) : Layout :=
  { unit := ((Indent.detect src.toList).map Indent.text).getD unit
    eol := LineEnding.detect src.toList }

/-- The text of a document. A line break within a string is escaped, so that every one there is
belongs to the layout. -/
def Layout.render (l : Layout) (v : Json) : String :=
  let text := v.pretty l.unit
  match l.eol with
  | .lf => text ++ l.eol.text
  | .crlf => substitute text "\n" l.eol.text ++ l.eol.text

end Codemod.Json
