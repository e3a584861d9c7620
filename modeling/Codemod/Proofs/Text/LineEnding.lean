import Codemod.Proofs.Text.Search
import Codemod.Proofs.Text.Unbroken
import Codemod.Text.LineEnding

/-!
# Line endings of a text

Counting and exchanging line breaks piece by piece: text without line breaks is passed over, and a
line ending counts as one of its kind.

## Main results

* `LineEnding.tally_append`, `LineEnding.tally_chars_append` — counting.
* `LineEnding.detect_of_tally` — a text with line endings of one kind only.
-/

namespace Codemod

namespace Text

theorem replaceAll_append {w : Char} {s : List Char} (h : w ∉ s) (new t : List Char) :
    replaceAll [w] new (s ++ t) = s ++ replaceAll [w] new t := by
  refine replaceAll_append_of_disjoint (List.cons_ne_nil w []) (fun x hx hw => ?_) new t
  obtain rfl := List.mem_singleton.mp hw
  exact h hx

theorem replaceAll_cons (w : Char) (new t : List Char) :
    replaceAll [w] new (w :: t) = new ++ replaceAll [w] new t := by
  simp [replaceAll, replaceFrom, List.isPrefixOf]

end Text

namespace LineEnding

/-- What a text of so many lines counts up to. -/
def tallied : LineEnding → Nat → Nat × Nat
  | lf, n => (n, 0)
  | crlf, n => (0, n)

theorem tally_append {s : List Char} (h : Text.Unbroken s) (t : List Char) :
    tally (s ++ t) = tally t := by
  induction s with
  | nil => rfl
  | cons c s ih =>
    rw [Text.unbroken_cons] at h
    rw [List.cons_append, tally.eq_4 _ _ (fun _ h' => absurd h' h.1.2) (fun h' => absurd h' h.1.1)]
    exact ih h.2

theorem tally_chars_append (e : LineEnding) {t : List Char} {n : Nat} (h : tally t = e.tallied n) :
    tally (e.chars ++ t) = e.tallied (n + 1) := by
  cases e <;> simp [chars, tally, h, tallied]

theorem detect_of_tally {e : LineEnding} {s : List Char} {n : Nat}
    (h : tally s = e.tallied (n + 1)) : detect s = e := by
  cases e <;> simp [detect, h, tallied]

end LineEnding

end Codemod
