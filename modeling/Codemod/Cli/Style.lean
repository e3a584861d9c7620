import Codemod.Text.Search

/-!
# Colors on the terminal

Colored text stands between escape sequences. Where colors are off, text stands as it is.

## Main definitions

* `Symbol` — the signs that lines of output begin with.
* `colorizeDiff` — colors the lines of a diff by what they say.
-/

namespace Codemod.Cli

inductive Style where
  | bold
  | dimmed
  | red
  | green
  | blue
  | cyan
  deriving DecidableEq, Inhabited

/-- The codes that turn a style on and off. -/
def Style.codes : Style → String × String
  | bold => ("1", "0")
  | dimmed => ("2", "0")
  | red => ("31", "39")
  | green => ("32", "39")
  | blue => ("34", "39")
  | cyan => ("36", "39")

def Style.apply (s : Style) (text : String) : String :=
  "\x1b[" ++ s.codes.1 ++ "m" ++ text ++ "\x1b[" ++ s.codes.2 ++ "m"

/-! ## Symbols -/

inductive Symbol where
  | check
  | cross
  | question
  | gear
  deriving DecidableEq, Inhabited

namespace Symbol

def plain : Symbol → String
  | check => "✔"
  | cross => "x"
  | question => "?"
  | gear => "⚙"

def colored : Symbol → String
  | check => Style.bold.apply (Style.green.apply "✔")
  | cross => Style.bold.apply (Style.red.apply "✖")
  | question => Style.bold.apply (Style.cyan.apply "?")
  | gear => Style.bold.apply (Style.blue.apply "⚙")

def text (s : Symbol) (color : Bool) : String :=
  if color then s.colored else s.plain

end Symbol

/-! ## Diffs -/

/-- The style of a line of a diff. -/
def lineStyle (line : String) : Option Style :=
  if hasStart line "+++" || hasStart line "---" || hasStart line "diff --git" then some .bold
  else if hasStart line "@@" then some .cyan
  else if hasStart line "+" then some .green
  else if hasStart line "-" then some .red
  else if hasEnd line "file mode 100644" then some .dimmed
  else none

def colorizeLine (line : String) : String :=
  match lineStyle line with
  | some s => s.apply line
  | none => line

/-- Every line in its style; what stands after the last line break is no line if it is empty. -/
def colorizeLines : List String → String
  | [] => ""
  | [last] => if last = "" then "" else colorizeLine last
  | line :: rest => colorizeLine line ++ "\n" ++ colorizeLines rest

/-- A diff in colors, if they are on. -/
def colorizeDiff (diff : String) (color : Bool) : String :=
  if color then colorizeLines (pieces diff "\n") else diff

end Codemod.Cli
