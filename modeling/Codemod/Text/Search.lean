/-!
# Searching text

Cutting and replacing at the occurrences of a fixed word. Occurrences are taken from left to
right and do not overlap.

## Main definitions

* `occursIn` — whether a word occurs in a text.
* `splitOn` — the pieces between the occurrences of a word.
* `replaceAll` — the text with every occurrence exchanged for another word.
-/

namespace Codemod.Text

/-- What is left of `s` after the word `w` at its front. -/
def dropWord? : (w s : List Char) → Option (List Char)
  | [], s => some s
  | _ :: _, [] => none
  | a :: w, c :: s => if a = c then dropWord? w s else none

/-- What is left of `s` before the word `w` at its end. -/
def dropFinalWord? (w s : List Char) : Option (List Char) :=
  (dropWord? w.reverse s.reverse).map List.reverse

/-- Whether the word `w` occurs somewhere in the text. -/
def occursIn (w : List Char) : List Char → Bool
  | [] => w.isEmpty
  | c :: s => w.isPrefixOf (c :: s) || occursIn w s

/-- Puts a character in front of the first piece. -/
def onFirst (c : Char) : List (List Char) → List (List Char)
  | [] => [[c]]
  | p :: ps => (c :: p) :: ps

/-- The pieces of a text between the occurrences of `w`; the first `skip` characters belong to an
occurrence that has been found already. -/
def splitFrom (w : List Char) : (skip : Nat) → List Char → List (List Char)
  | _, [] => [[]]
  | skip + 1, _ :: s => splitFrom w skip s
  | 0, c :: s =>
    if w.isPrefixOf (c :: s) then [] :: splitFrom w (w.length - 1) s
    else onFirst c (splitFrom w 0 s)

/-- The pieces of `s` between the occurrences of the non-empty word `w`, at least one. -/
def splitOn (w s : List Char) : List (List Char) :=
  splitFrom w 0 s

/-- Like `splitFrom`, with `new` in place of every occurrence. -/
def replaceFrom (w new : List Char) : (skip : Nat) → List Char → List Char
  | _, [] => []
  | skip + 1, _ :: s => replaceFrom w new skip s
  | 0, c :: s =>
    if w.isPrefixOf (c :: s) then new ++ replaceFrom w new (w.length - 1) s
    else c :: replaceFrom w new 0 s

/-- `s` with `new` in place of every occurrence of the non-empty word `w`. -/
def replaceAll (w new s : List Char) : List Char :=
  replaceFrom w new 0 s

/-- Pieces joined by the word `w`. -/
def joinWith (w : List Char) : List (List Char) → List Char
  | [] => []
  | [p] => p
  | p :: ps => p ++ w ++ joinWith w ps

end Codemod.Text

namespace Codemod

/-- Whether `s` begins with `w`. -/
def hasStart (s w : String) : Bool :=
  w.toList.isPrefixOf s.toList

/-- Whether `s` ends with `w`. -/
def hasEnd (s w : String) : Bool :=
  w.toList.isSuffixOf s.toList

/-- The pieces of `s` between the occurrences of the non-empty word `w`. -/
def pieces (s w : String) : List String :=
  (Text.splitOn w.toList s.toList).map String.ofList

/-- `s` with `new` in place of every occurrence of the non-empty word `w`. -/
def substitute (s w new : String) : String :=
  String.ofList (Text.replaceAll w.toList new.toList s.toList)

end Codemod
