/-!
# Edit scripts

A text is a list of lines, each with its own terminator. An edit script is a list of blocks of
lines that are kept, dropped or added; reading it one way gives the old text, reading it the other
way gives the new one. A dropped block is marked with its place in the new text and an added block
with its place in the old one, as they were when the block was found.

## Main definitions

* `Patch.splitLines` — the lines of a text.
* `Block`, `Script.old`, `Script.new` — scripts and the two texts they relate.
* `Script.changes` — a script with the kept blocks joined and every change between them written
  as what it drops followed by what it adds.
-/

namespace Codemod.Patch

/-- A line with its terminator. -/
abbrev Line := List Char

/-- Puts a character in front of the first line. -/
def onLine (c : Char) : List Line → List Line
  | [] => [[c]]
  | l :: ls => (c :: l) :: ls

/-- The lines of a text. A line ends with `\n`, `\r\n` or a lone `\r`; the last may end with none. -/
def splitLines : List Char → List Line
  | [] => []
  | '\r' :: '\n' :: s => ['\r', '\n'] :: splitLines s
  | c :: s => if c = '\n' ∨ c = '\r' then [c] :: splitLines s else onLine c (splitLines s)

inductive Block where
  | keep (lines : List Line)
  | drop (lines : List Line) (mark : Nat)
  | add (lines : List Line) (mark : Nat)
  deriving DecidableEq

abbrev Script := List Block

def Block.isEmpty : Block → Bool
  | keep ls => ls.isEmpty
  | drop ls _ => ls.isEmpty
  | add ls _ => ls.isEmpty

/-- The lines a block has in the old text. -/
def Block.old : Block → List Line
  | keep ls => ls
  | drop ls _ => ls
  | add _ _ => []

/-- The lines a block has in the new text. -/
def Block.new : Block → List Line
  | keep ls => ls
  | drop _ _ => []
  | add ls _ => ls

/-- The text a script starts from. -/
def Script.old (s : Script) : List Line :=
  s.flatMap Block.old

/-- The text a script ends with. -/
def Script.new (s : Script) : List Line :=
  s.flatMap Block.new

/-- A stretch of kept lines, or lines that others take the place of. When a change only drops or
only adds lines, `mark` is its place in the other text. -/
inductive Change where
  | same (lines : List Line)
  | change (old new : List Line) (mark : Nat)
  deriving DecidableEq

/-- Joins a block to the changes that follow it. -/
def Change.cons : Block → List Change → List Change
  | .keep ls, .same ms :: rest => .same (ls ++ ms) :: rest
  | .keep ls, rest => .same ls :: rest
  | .drop ls mark, .change old new _ :: rest => .change (ls ++ old) new mark :: rest
  | .drop ls mark, rest => .change ls [] mark :: rest
  | .add ls mark, .change old new _ :: rest => .change old (ls ++ new) mark :: rest
  | .add ls mark, rest => .change [] ls mark :: rest

/-- Kept blocks joined, and each change between them as one. -/
def Script.changes (s : Script) : List Change :=
  s.foldr Change.cons []

end Codemod.Patch
