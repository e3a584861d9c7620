import Codemod.Pattern.CharSet

/-!
# Patterns

A pattern describes pieces of a text. It is found in a text if it describes some piece of it,
wherever that lies.

## Main definitions

* `Pattern` — patterns.
* `Pattern.ends` — where the pieces that begin at a place can end.
* `Pattern.isFoundIn` — whether a pattern is found in a text.
-/

namespace Codemod

namespace Pattern

/-- A place beside which words are looked at. -/
inductive Edge where
  /-- A word begins or ends here. -/
  | boundary
  | noBoundary
  /-- A word begins here. -/
  | wordStart
  /-- A word ends here. -/
  | wordEnd
  /-- No word goes on from before. -/
  | noWordBefore
  /-- No word goes on from here. -/
  | noWordAfter
  deriving DecidableEq, Inhabited

def Edge.holds (before after : Bool) : Edge → Bool
  | boundary => before != after
  | noBoundary => before == after
  | wordStart => !before && after
  | wordEnd => before && !after
  | noWordBefore => !before
  | noWordAfter => !after

/-- Places that are recognised by what stands beside them. -/
inductive Anchor where
  | textStart
  | textEnd
  /-- The start of a line; with `crlf`, lines may also end with `\r\n` or `\r`. -/
  | lineStart (crlf : Bool)
  | lineEnd (crlf : Bool)
  | edge (ascii : Bool) (e : Edge)
  deriving DecidableEq, Inhabited

end Pattern

inductive Pattern where
  /-- The empty piece. -/
  | empty
  | chars (s : Pattern.CharSet)
  | anchor (a : Pattern.Anchor)
  | seq (a b : Pattern)
  | alt (a b : Pattern)
  /-- At least `least` times and, if there is a bound, at most that often. -/
  | times (p : Pattern) (least : Nat) (most : Option Nat)
  deriving Inhabited

namespace Pattern

/-- Whether a place is what an anchor says. -/
def Anchor.holds (text : Array Char) (i : Nat) : Anchor → Bool
  | textStart => i == 0
  | textEnd => i == text.size
  | lineStart crlf =>
    i == 0 || text[i - 1]? == some '\n' ||
      (crlf && text[i - 1]? == some '\r' && text[i]? != some '\n')
  | lineEnd crlf =>
    i == text.size ||
      (if crlf then
        text[i]? == some '\r' || (text[i]? == some '\n' && (i == 0 || text[i - 1]? != some '\r'))
      else text[i]? == some '\n')
  | edge ascii e =>
    let isWord (c : Option Char) :=
      match c with
      | some c => (CharSet.word ascii).has c.toNat
      | none => false
    e.holds (i != 0 && isWord text[i - 1]?) (isWord text[i]?)

/-- Applies a step to every place, each result once. -/
def stepAll (step : Nat → List Nat) (places : List Nat) : List Nat :=
  (places.flatMap step).eraseDups

/-- Exactly `n` steps. -/
def steps (step : Nat → List Nat) : (n : Nat) → List Nat → List Nat
  | 0, places => places
  | n + 1, places => if places.isEmpty then [] else steps step n (stepAll step places)

/-- At most `n` steps. -/
def upToSteps (step : Nat → List Nat) : (n : Nat) → List Nat → List Nat
  | 0, places => places
  | n + 1, places =>
    let next := (places ++ stepAll step places).eraseDups
    if next.length = places.length then places else upToSteps step n next

/-- Where the pieces that begin at place `i` and that a pattern describes can end. -/
def ends (text : Array Char) : Pattern → Nat → List Nat
  | empty, i => [i]
  | chars s, i =>
    match text[i]? with
    | some c => if s.has c.toNat then [i + 1] else []
    | none => []
  | anchor a, i => if a.holds text i then [i] else []
  | seq a b, i => stepAll (ends text b) (ends text a i)
  | alt a b, i => (ends text a i ++ ends text b i).eraseDups
  | times p least most, i =>
    let more :=
      match most with
      | some m => min (m - least) (text.size + 1)
      | none => text.size + 1
    upToSteps (ends text p) more (steps (ends text p) least [i])

/-- How many steps a pattern comes to when every repetition is written out. -/
def size : Pattern → Nat
  | empty => 1
  | chars s => s.size
  | anchor _ => 1
  | seq a b => a.size + b.size
  | alt a b => a.size + b.size + 1
  | times p least none => p.size * (least + 1) + 1
  | times p least (some most) => p.size * least + (p.size + 1) * (most - least)

/-- Whether a pattern describes a piece of a text. -/
def isFoundIn (p : Pattern) (s : String) : Bool :=
  let text := s.toList.toArray
  (List.range (text.size + 1)).any fun i => !(p.ends text i).isEmpty

end Pattern

end Codemod
