import Codemod.Proofs.Source.Excerpts
import Codemod.Proofs.Text.Bytes
import Codemod.Source.Unit

/-!
# Edits of a source

An edit replaces a range of bytes that begins and ends with whole characters. When several parts of
a source are replaced from the last to the first, what stands before a part has not changed yet when
it is replaced. So all ranges can be told by the bytes of the source as it was at first, whatever is
put in their place, and no edit fails.

## Main definitions

* `Bytes.Substituted` — parts of some bytes are replaced at once.

## Main results

* `SourceUnit.replace_eq_ok_iff`, `SourceUnit.replace_eq_error` — which edits are accepted.
* `SourceUnit.foldlM_replace` — edits from the last to the first.
-/

namespace Codemod

/-! ## Bytes -/

namespace Bytes

theorem length_ofText (s : List Char) : (ofText (String.ofList s)).length = Source.byteSize s := by
  rw [← Source.utf8ByteSize_ofList, ← String.size_toByteArray]
  rfl

/-- All ranges hold the bytes `old`, and in the second bytes `new` stands in their place; the rest
is the same. The ranges are told by the first bytes, of which `offset` have come before, and stand
in them one after the other. -/
inductive Substituted (old new : Bytes) : (offset : Nat) → List Source.Span → Bytes → Bytes → Prop
  | nil (offset : Nat) (b : Bytes) : Substituted old new offset [] b b
  | cons {offset : Nat} {r : Source.Span} {rs : List Source.Span} {b b' : Bytes} (gap : Bytes)
      (hstart : r.start = offset + gap.length) (hstop : r.stop = r.start + old.length)
      (hrest : Substituted old new r.stop rs b b') :
      Substituted old new offset (r :: rs) (gap ++ (old ++ b)) (gap ++ (new ++ b'))

end Bytes

/-! ## Edits -/

namespace SourceUnit

open Source

section Exchange

variable (u : SourceUnit) (front old back : List Char) (new : String)

@[simp] theorem path_exchange : (u.exchange front old back new).path = u.path := rfl

@[simp] theorem language_exchange : (u.exchange front old back new).language = u.language := rfl

@[simp] theorem toList_text_exchange :
    (u.exchange front old back new).text.toList = front ++ (new.toList ++ back) := by
  simp [exchange]

end Exchange

section Replace

variable {u v : SourceUnit} {r : Span} {new : String}

/-- An edit is accepted if its range is one of whole characters, and puts the new text between what
stands before and after that range. -/
theorem replace_eq_ok_iff :
    u.replace r new = .ok v ↔
      ∃ front old back, u.text.toList = front ++ (old ++ back) ∧ r.start = byteSize front ∧
        r.stop = r.start + byteSize old ∧ v = u.exchange front old back new := by
  rw [replace]
  constructor
  · intro h
    split at h
    next hle =>
      split at h
      · cases h
      next front rest hfront =>
        split at h
        · cases h
        next old back hold =>
          cases h
          obtain ⟨htext, hstart⟩ := splitAt?_eq_some_iff.mp hfront
          obtain ⟨rfl, hsize⟩ := splitAt?_eq_some_iff.mp hold
          rw [Span.size] at hsize
          exact ⟨front, old, back, htext, hstart, by omega, rfl⟩
    next => cases h
  · rintro ⟨front, old, back, htext, hstart, hstop, rfl⟩
    have hsize : r.size = byteSize old := by rw [Span.size]; omega
    rw [if_pos (by omega), htext, hstart, splitAt?_append, hsize]
    dsimp only
    rw [splitAt?_append]

theorem replace_eq_error {e : InvalidEdit} (h : u.replace r new = .error e) :
    e = ⟨u.path, r⟩ ∧ ∀ part, ¬ Holds u.text.toList r part := by
  refine ⟨?_, ?_⟩
  · rw [replace] at h
    repeat' split at h
    all_goals cases h
    all_goals rfl
  · rintro part ⟨front, back, htext, hstart, hstop⟩
    have hok : u.replace r new = .ok (u.exchange front part back new) :=
      replace_eq_ok_iff.mpr ⟨front, part, back, htext, hstart, hstop, rfl⟩
    rw [h] at hok
    cases hok

end Replace

/-- Parts of a source that all read the same are replaced, the last of them first. -/
theorem foldlM_replace {offset : Nat} {s : List Char} {xs : List Excerpt} (h : Occur offset s xs)
    {old : String} (hold : ∀ x ∈ xs, x.text = old.toList) (new : String) {u : SourceUnit}
    {front : List Char} (hfront : byteSize front = offset) (htext : u.text.toList = front ++ s) :
    ∃ next s', (xs.map (·.span)).reverse.foldlM (fun (u : SourceUnit) r => u.replace r new) u =
        .ok next ∧
      next.path = u.path ∧ next.text.toList = front ++ s' ∧
      Bytes.Substituted (Bytes.ofText old) (Bytes.ofText new) offset (xs.map (·.span))
        (Bytes.ofText (String.ofList s)) (Bytes.ofText (String.ofList s')) := by
  induction h generalizing front with
  | nil offset s => exact ⟨u, s, rfl, rfl, htext, .nil _ _⟩
  | @cons offset x s xs gap hstart hstop hrest ih =>
    rw [List.forall_mem_cons] at hold
    have hread : byteSize (front ++ (gap ++ x.text)) = x.span.stop := by
      simp only [byteSize_append]
      omega
    obtain ⟨next, s', hlater, hpath, hnext, hsubstituted⟩ :=
      ih hold.2 hread (by simpa using htext)
    -- what stands before the part has not changed yet
    have hedit : next.replace x.span new =
        .ok (next.exchange (front ++ gap) x.text s' new) := by
      refine replace_eq_ok_iff.mpr ⟨front ++ gap, x.text, s', by simpa using hnext, ?_, hstop, rfl⟩
      rw [byteSize_append]
      omega
    refine ⟨next.exchange (front ++ gap) x.text s' new, gap ++ (new.toList ++ s'), ?_, hpath,
      by simp, ?_⟩
    · rw [List.map_cons, List.reverse_cons, List.foldlM_append, hlater]
      exact congrArg (Except.bind · Except.ok) hedit
    · have hgap := Bytes.length_ofText gap
      have htext := Bytes.length_ofText x.text
      rw [hold.1, String.ofList_toList] at htext
      simp only [List.map_cons, String.ofList_append, Bytes.ofText_append, String.ofList_toList,
        hold.1]
      exact .cons _ (by rw [hgap]; exact hstart) (by rw [htext, ← hold.1]; exact hstop) hsubstituted

end SourceUnit

end Codemod
