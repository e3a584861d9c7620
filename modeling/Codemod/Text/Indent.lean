import Codemod.Text.Blank
import Codemod.Text.Search

/-!
# Indentation units

The unit a text is indented by: the most frequent step between an indented line and the indented
line before it. Steps of tabs and of spaces are counted apart.

## Main definitions

* `Indent.steps` — the steps of a text, line by line.
* `Indent.best` — the winning step of a list of counted steps.
* `Indent.detect` — the unit of a text, if any line is indented.
-/

namespace Codemod

/-- A run of tabs or of spaces. -/
structure Indent where
  tabs : Bool
  width : Nat
  deriving DecidableEq, Inhabited

namespace Indent

def chars (i : Indent) : List Char :=
  List.replicate i.width (if i.tabs then '\t' else ' ')

def text (i : Indent) : String :=
  String.ofList i.chars

/-- The spaces and tabs that `line` begins with; the first of them decides whether it is indented
by tabs. -/
def ofLine (line : List Char) : Indent :=
  { tabs := line.head? == some '\t'
    width := (line.takeWhile fun c => c == ' ' || c == '\t').length }

/-- The step from the indented line before, if there was one of the same kind. -/
def step (previous : Option Indent) (i : Indent) : Indent :=
  match previous with
  | some p => if p.tabs = i.tabs then { i with width := (i.width - p.width) + (p.width - i.width) } else i
  | none => i

/-- The steps between indented lines. A blank line is passed over; a line without indentation
starts afresh; a step of width zero does not count. -/
def stepsFrom (previous : Option Indent) : List (List Char) → List Indent
  | [] => []
  | line :: rest =>
    if (Text.trim line).isEmpty then stepsFrom previous rest
    else
      let i := ofLine line
      if i.width = 0 then stepsFrom none rest
      else
        let s := step previous i
        if s.width = 0 then stepsFrom (some i) rest else s :: stepsFrom (some i) rest

/-- The steps of a text in the order of its lines. -/
def steps (src : List Char) : List Indent :=
  stepsFrom none (Text.splitOn ['\n'] src)

/-- Whether the step `a`, seen `m` times, wins over `b`, seen `n` times: more often, else
narrower, else made of spaces. -/
def beats (m : Nat) (a : Indent) (n : Nat) (b : Indent) : Bool :=
  n < m || (n == m && (a.width < b.width || (a.width == b.width && (!a.tabs && b.tabs))))

/-- The winner among `candidates`, each counted in `all`. -/
def best (all : List Indent) : (candidates : List Indent) → Option Indent
  | [] => none
  | i :: rest =>
    match best all rest with
    | none => some i
    | some j => if beats (all.count i) i (all.count j) j then some i else some j

/-- The unit `src` is indented by. -/
def detect (src : List Char) : Option Indent :=
  let all := steps src
  best all all

end Indent

end Codemod
