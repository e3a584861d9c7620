import Codemod.Text.LineEnding

/-!
# Texts as lines

A text is read as the lines between its line endings; an ending at the very end only ends the last
line. Written again, every line has an ending.
-/

namespace Codemod.Lines

/-- The lines of a text with the given ending; the empty text has none. -/
def parse (eol : LineEnding) (src : String) : List String :=
  if src = "" then []
  else
    let body := (Text.dropFinalWord? eol.chars src.toList).getD src.toList
    (Text.splitOn eol.chars body).map String.ofList

/-- The text of lines. -/
def render (eol : LineEnding) (lines : List String) : String :=
  eol.text.intercalate lines ++ eol.text

end Codemod.Lines
