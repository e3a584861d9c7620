import Codemod.Proofs.Source.Excerpts
import Codemod.Source.Token.Lexer
import Mathlib.Data.Option.Basic

/-!
# Where tokens stand

The lexer passes over a source from left to right. In a step it reads some characters, which become
a token or belong to none, whatever it takes them for. So the tokens stand in the source one after
the other, with errors in it or without.

## Main definitions

* `Token.excerpt` — a token as part of the source.
* `Scan.Moves` — what a step does.

## Main results

* `Scan.moves_step` — every step is one.
* `Scan.Covers.run` — the tokens so far stand in what has been read.
* `occur_scan` — the tokens of a source.
-/

namespace Codemod.Source

def Token.excerpt (t : Token) : Excerpt :=
  ⟨⟨t.start, t.stop⟩, t.text.toList⟩

namespace Scan

/-! ## Steps -/

/-- The next characters have been read, and have become a token or been passed over. -/
def Moves (s s' : Scan) : Prop :=
  ∃ n, s'.rest = s.rest.drop n ∧ s'.position = s.position + byteSize (s.rest.take n) ∧
    (s'.tokens = s.tokens ∨ ∃ t, s'.tokens = t :: s.tokens ∧
      t.excerpt = ⟨⟨s.position, s'.position⟩, s.rest.take n⟩)

section Moves

variable {s s' : Scan}

theorem moves_skip (s : Scan) (n : Nat) : s.Moves (s.skip n) :=
  ⟨n, rfl, rfl, .inl rfl⟩

@[simp] theorem moves_emit (s : Scan) (kind : Token.Kind) (n : Nat) : s.Moves (s.emit kind n) :=
  ⟨n, rfl, rfl, .inr ⟨_, rfl, by simp [Token.excerpt, emit]⟩⟩

@[simp] theorem moves_push {b : Bracket} : s.Moves (s'.push b) ↔ s.Moves s' := Iff.rfl

@[simp] theorem moves_pop : s.Moves s'.pop ↔ s.Moves s' := Iff.rfl

theorem moves_ite {p : Prop} [Decidable p] {t : Scan} (h : s.Moves s') (ht : s.Moves t) :
    s.Moves (if p then s' else t) := by
  split
  · exact h
  · exact ht

theorem moves_comment? (h : s.comment? = some s') : s.Moves s' := by
  unfold comment? at h
  split at h
  · cases h
    exact moves_emit s _ _
  · split at h <;> cases h <;> exact moves_emit s _ _
  · cases h

theorem moves_markupComment? (h : s.markupComment? = some s') : s.Moves s' := by
  unfold markupComment? at h
  dsimp only at h
  split at h
  · cases h
    exact moves_emit s _ _
  · cases h

@[simp] theorem moves_close (s : Scan) (b : Bracket) : s.Moves (s.close b) := by
  have hclosing : s.Moves ((s.emit .closing 1).pop) := moves_emit s _ 1
  unfold close
  dsimp only
  split <;> exact hclosing

@[simp] theorem moves_closing (s : Scan) (c : Char) : s.Moves (s.closing c) := by
  unfold closing
  split <;> simp

theorem moves_inCode (dialect : Dialect) (s : Scan) (c : Char) (rest : List Char) :
    s.Moves (s.inCode dialect c rest) := by
  unfold inCode
  split
  next s' hcomment =>
    obtain h | ⟨-, h⟩ := (Option.orElse_eq_some _ _ _).mp hcomment
    · exact moves_comment? h
    · exact moves_markupComment? h
  next =>
    refine moves_ite ?_ ?_
    · split <;> exact moves_emit s _ _
    -- brackets, numbers and words
    iterate 7 refine moves_ite (by simp) ?_
    refine moves_ite ?_ (moves_ite ?_ ?_)
    · exact moves_ite (moves_emit s _ _)
        (moves_ite (moves_emit s _ _) (moves_emit s _ _))
    · split <;> exact moves_emit s _ _
    iterate 2 refine moves_ite (by simp) ?_
    exact moves_emit s _ _

theorem moves_inTemplate (s : Scan) : s.Moves s.inTemplate := by
  unfold inTemplate
  split <;> simp

theorem moves_inTag (s : Scan) (closing : Bool) (c : Char) (rest : List Char) :
    s.Moves (s.inTag closing c rest) := by
  unfold inTag
  split
  next s' hcomment => exact moves_comment? hcomment
  next =>
    refine moves_ite ?_ (moves_ite (by simp) ?_)
    · cases closing <;> simp
    refine moves_ite ?_ ?_
    · split <;> exact moves_emit s _ _
    iterate 4 refine moves_ite (by simp) ?_
    exact moves_emit s _ _

theorem moves_inElement (s : Scan) : s.Moves s.inElement := by
  unfold inElement
  repeat' split
  all_goals simp

/-- Whatever brackets are open, a step reads some characters. -/
theorem moves_step (dialect : Dialect) (s : Scan) : s.Moves (s.step dialect) := by
  unfold step
  split
  next => exact ⟨0, by simp, by simp, .inl rfl⟩
  next => exact moves_inTemplate s
  next => exact moves_inElement s
  next closing c rest _ _ =>
    split
    · exact moves_skip s 1
    · exact moves_inTag s closing c rest
  next c rest _ _ _ _ =>
    split
    · exact moves_skip s 1
    · exact moves_inCode dialect s c rest

end Moves

/-! ## Sources -/

/-- The tokens so far stand in the part of the source that has been read. -/
def Covers (src : List Char) (s : Scan) : Prop :=
  ∃ done, src = done ++ s.rest ∧ s.position = byteSize done ∧
    Occur 0 done (s.tokens.reverse.map Token.excerpt)

/-- One step more. -/
theorem Covers.moves {src : List Char} {s s' : Scan} (h : Covers src s) (hmoves : s.Moves s') :
    Covers src s' := by
  obtain ⟨done, rfl, hposition, hoccur⟩ := h
  obtain ⟨n, hrest, hposition', htokens⟩ := hmoves
  refine ⟨done ++ s.rest.take n, ?_, ?_, ?_⟩
  · rw [hrest, List.append_assoc, List.take_append_drop]
  · rw [hposition', hposition, byteSize_append]
  · obtain hsame | ⟨t, htokens, hexcerpt⟩ := htokens
    · rw [hsame]
      exact hoccur.append _
    · rw [htokens, List.reverse_cons, List.map_append, List.map_singleton, hexcerpt]
      exact hoccur.concat (x := ⟨_, s.rest.take n⟩) (by simpa using hposition) hposition'

/-- All steps. -/
theorem Covers.run {src : List Char} {s : Scan} (h : Covers src s) (dialect : Dialect)
    (fuel : Nat) : Covers src (run dialect fuel s) := by
  fun_induction Scan.run dialect fuel s with
  | case1 => exact h
  | case2 => exact h
  | case3 fuel s _ ih => exact ih (h.moves (moves_step dialect s))

theorem covers_start (src : List Char) : Covers src { rest := src } :=
  ⟨[], rfl, rfl, .nil _ _⟩

end Scan

/-- The tokens of a source stand in it one after the other. -/
theorem occur_scan (dialect : Dialect) (src : String) :
    Occur 0 src.toList ((scan dialect src).1.map Token.excerpt) := by
  obtain ⟨done, hsrc, -, hoccur⟩ :=
    (Scan.covers_start src.toList).run dialect (src.toList.length + 1)
  rw [hsrc]
  exact hoccur.append _

end Codemod.Source
