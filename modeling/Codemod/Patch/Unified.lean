import Codemod.Patch.Hunk

/-!
# Unified diffs

The text form of a patch to one file. A file that comes into being or goes away is announced by a
header of its own.
-/

namespace Codemod.Patch

/-- A span of lines: the first and how many, the latter left out when it is one. An empty span is
named by the line before it. -/
def spanText (span : Nat × Nat) : String :=
  let (start, stop) := span
  let count := stop - start
  if count = 1 then toString (start + 1)
  else if count = 0 then toString start ++ ",0"
  else toString (start + 1) ++ "," ++ toString count

def Mark.text : Mark → String
  | kept => " "
  | removed => "-"
  | added => "+"

/-- Whether a line has a terminator. -/
def isTerminated (l : Line) : Bool :=
  match l.getLast? with
  | some c => c = '\n' || c = '\r'
  | none => false

def lineText : Mark × Line → String
  | (m, l) =>
    m.text ++ String.ofList l ++ (if isTerminated l then "" else "\n\\ No newline at end of file\n")

def Hunk.text (h : Hunk) : String :=
  "@@ -" ++ spanText h.oldSpan ++ " +" ++ spanText h.newSpan ++ " @@\n" ++ String.join (h.lines.map lineText)

/-- What is said in front of the hunks about a file that is created or deleted. -/
def modeText (path before after : String) : String :=
  let announce (what : String) :=
    "diff --git a/" ++ path ++ " b/" ++ path ++ "\n" ++ what ++ " file mode 100644\n"
  if before = "" then announce "new" else if after = "" then announce "deleted" else ""

/-- The unified diff that leads from `before` to `after`, empty if they are the same. -/
def unified (path before after : String) : String :=
  if before = after then ""
  else
    modeText path before after ++ "--- a/" ++ path ++ "\n+++ b/" ++ path ++ "\n" ++
      String.join ((hunks (splitLines before.toList) (splitLines after.toList)).map Hunk.text)

end Codemod.Patch
