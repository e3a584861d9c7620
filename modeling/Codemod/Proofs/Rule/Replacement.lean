import Codemod.Proofs.Rule.Meaning
import Codemod.Proofs.Text.Lines

/-!
# Words that are replaced in texts

A rule replaces a word line by line. Lines are what stands between line endings of one kind, and a
word without line breaks does not reach from one to the next, so that it is replaced in the text as
a whole. The rest of the text stays, with an ending after its last line if something was replaced.

## Main results

* `Lines.render_map_substitute` — a word is replaced in the lines or in their text.
* `RuleSet.replaceText_acts_on_whole_text` — what becomes of a text.
-/

namespace Codemod

/-! ## Lines and their text -/

section

variable {find : String} (hfind : find ≠ "") (hplain : Text.Unbroken find.toList)

include hplain in
theorem LineEnding.notMem_of_mem_chars (e : LineEnding) : ∀ c ∈ e.chars, c ∉ find.toList := by
  intro c hc hmem
  have hbreak : c = '\n' ∨ c = '\r' := by
    cases e <;> simp_all [chars, or_comm]
  exact hbreak.elim (hplain c hmem).1 (hplain c hmem).2

include hfind hplain

theorem substitute_append_text (e : LineEnding) (s new : String) :
    substitute (s ++ e.text) find new = substitute s find new ++ e.text := by
  apply String.toList_inj.mp
  have hcut := Text.replaceAll_append_separator (by simpa using hfind) e.chars_ne_nil
    (e.notMem_of_mem_chars hplain) new.toList s.toList []
  simpa [substitute, Text.replaceAll, Text.replaceFrom] using hcut

/-- A word is replaced in every line or in the text of all lines. -/
theorem Lines.render_map_substitute (e : LineEnding) (new : String) (lines : List String) :
    render e (lines.map (substitute · find new)) = substitute (render e lines) find new := by
  have hlines := Text.replaceAll_joinWith (by simpa using hfind) e.chars_ne_nil
    (e.notMem_of_mem_chars hplain) new.toList (lines.map String.toList)
  rw [render, render, substitute_append_text hfind hplain]
  congr 1
  apply String.toList_inj.mp
  simp only [substitute, String.toList_intercalate, String.toList_ofList, e.toList_text,
    ← Text.joinWith_eq_intercalate, hlines, List.map_map]
  simp only [Function.comp_def, String.toList_ofList]

end

namespace RuleSet

/-- A text is given to the one rule that there is, which replaces a word without line breaks. If the
word does not occur in the text, or is replaced by itself, the text is left as it is, and else it is
replaced wherever it is found from left to right. All else stays, and the ending of the text comes
after it if it does not end with it. -/
theorem replaceText_acts_on_whole_text {engine : Pattern.Engine} {pattern : Option String}
    {find new path : String} {s : RuleSet}
    (hs : compile engine [.replaceText pattern find new] = .ok s)
    (hpattern : Rule.covers engine path pattern = true) (hfind : find ≠ "")
    (hplain : Text.Unbroken find.toList) (f : Format .text) (src : String) (h : Host) :
    (¬ find.toList <:+: src.toList ∨ find = new →
      ((s.updater f).update path src h).1 = .ok src) ∧
    (find.toList <:+: src.toList → find ≠ new →
      Text.Exchanged find.toList new.toList src.toList (substitute src find new).toList ∧
      ((s.updater f).update path src h).1 =
        .ok (if hasEnd src (LineEnding.detect src.toList).text then substitute src find new
          else substitute src find new ++ (LineEnding.detect src.toList).text)) := by
  set e := LineEnding.detect src.toList with he
  have hword : find.toList ≠ [] := by simpa using hfind
  have hsame : substitute src find new = src ↔ ¬ find.toList <:+: src.toList ∨ find = new := by
    rw [← String.toList_inj, substitute, String.toList_ofList, Text.replaceAll_eq_self_iff hword,
      String.toList_inj]
  -- the text of the lines before and after the word is replaced
  have hbefore := Lines.render_parse e src
  have hafter : Lines.render e ((Lines.parse e src).map (substitute · find new)) =
      if hasEnd src e.text then substitute src find new
      else substitute src find new ++ e.text := by
    rw [Lines.render_map_substitute hfind hplain, hbefore, apply_ite (substitute · find new),
      substitute_append_text hfind hplain]
  have hupdate : ((s.updater f).update path src h).1 =
      .ok (if substitute src find new = src then src
        else if hasEnd src e.text then substitute src find new
        else substitute src find new ++ e.text) := by
    have hrewrite : Rule.rewrite (k := .text) engine path (.replaceText pattern find new)
        (Lines.parse e src) = .ok ((Lines.parse e src).map (substitute · find new)) := by
      simp [Rule.rewrite, hpattern, hfind]
    rw [fst_update_single hs rfl f rfl]
    simp only [Format.readNode, ← he, hrewrite, Format.parse, Format.remember, Format.render,
      Format.layout, Format.renderWith, hbefore, hafter]
    split <;> simp
  rw [hupdate]
  refine ⟨fun hnothing => ?_, fun hoccurs hne => ?_⟩
  · rw [if_pos (hsame.mpr hnothing)]
  · have hchanged : substitute src find new ≠ src := by simp [hsame, hoccurs, hne]
    refine ⟨?_, by rw [if_neg hchanged]⟩
    simpa [substitute] using Text.exchanged_replaceAll hword new.toList src.toList

/-- A text with two kinds of line endings and none at its end, in which words follow one another. -/
theorem replaceText_acts_on_whole_text_mixed :
    ∃ s, compile .standard [.replaceText (some "a") "xx" "x"] = .ok s ∧
      ∀ (f : Format .text) (h : Host),
      ((s.updater f).update "a.txt" "xxx\r\nb\nxxxx\r\n\rxx" h).1 =
        .ok "xx\r\nb\nxx\r\n\rx\r\n" := by
  obtain ⟨s, hs⟩ : ∃ s, compile .standard [.replaceText (some "a") "xx" "x"] = .ok s :=
    exists_compile_iff.mpr (by decide +kernel)
  refine ⟨s, hs, fun f h => ?_⟩
  have hcovers : Rule.covers .standard "a.txt" (some "a") = true := by decide +kernel
  obtain ⟨-, hreplaced⟩ := replaceText_acts_on_whole_text hs hcovers (by decide) (by decide) f
    "xxx\r\nb\nxxxx\r\n\rxx" h
  rw [(hreplaced (by decide) (by decide)).2]
  decide +kernel

end RuleSet

end Codemod
