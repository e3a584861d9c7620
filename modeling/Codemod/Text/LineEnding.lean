import Codemod.Text.Search

/-!
# Line endings

A text is written with one of two line endings. The one that occurs strictly more often is taken
for the text's own; when neither does, it is `\n`.
-/

namespace Codemod

inductive LineEnding where
  | lf
  | crlf
  deriving DecidableEq, Inhabited

namespace LineEnding

def chars : LineEnding → List Char
  | lf => ['\n']
  | crlf => ['\r', '\n']

/-- The ending as text. -/
def text (e : LineEnding) : String :=
  String.ofList e.chars

/-- How many bare `\n` and how many `\r\n` a text holds. -/
def tally : List Char → Nat × Nat
  | [] => (0, 0)
  | '\r' :: '\n' :: s => let (l, c) := tally s; (l, c + 1)
  | '\n' :: s => let (l, c) := tally s; (l + 1, c)
  | _ :: s => tally s

/-- The ending that occurs strictly more often, `\n` if neither does. -/
def detect (src : List Char) : LineEnding :=
  let (l, c) := tally src
  if l < c then crlf else lf

end LineEnding

end Codemod
