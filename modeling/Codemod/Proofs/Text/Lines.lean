import Codemod.Format
import Codemod.Proofs.Text.LineEnding
import Codemod.Proofs.Text.Search

/-!
# Lines there and back

A text is cut at one of the two line endings, and the other one, or a carriage return by itself,
stays where it is within a line. So a text is written again as it was, except that its last line has
an ending in any case. Lines without any line break are read again as they were, since their text
has endings of one kind only and so shows which.

## Main results

* `Lines.render_parse` — texts that are written again.
* `Lines.detect_render`, `Lines.parse_render` — lines that are read again.
* `Format.text_round_trips` — both for the format.
-/

namespace Codemod

namespace LineEnding

variable (e : LineEnding)

@[simp] theorem toList_text : e.text.toList = e.chars :=
  String.toList_ofList

theorem chars_ne_nil : e.chars ≠ [] := by
  cases e <;> simp [chars]

theorem text_ne_empty : e.text ≠ "" := by
  cases e <;> decide

theorem exists_chars_eq_cons : ∃ a w, e.chars = a :: w ∧ (a = '\n' ∨ a = '\r') := by
  cases e
  · exact ⟨'\n', [], rfl, .inl rfl⟩
  · exact ⟨'\r', ['\n'], rfl, .inr rfl⟩

end LineEnding

namespace Lines

variable (e : LineEnding)

theorem toList_render (lines : List String) :
    (render e lines).toList = Text.joinWith e.chars (lines.map String.toList) ++ e.chars := by
  simp [render, String.toList_intercalate, Text.joinWith_eq_intercalate]

theorem render_ne_empty (lines : List String) : render e lines ≠ "" := by
  simp [render, e.text_ne_empty]

/-! ## Texts -/

/-- The lines of a text, joined by the ending at which it was cut, are the text without an ending at
its end. -/
theorem joinWith_parse (src : String) :
    Text.joinWith e.chars ((parse e src).map String.toList) =
      (Text.dropFinalWord? e.chars src.toList).getD src.toList := by
  by_cases hsrc : src = ""
  · subst hsrc
    cases e <;> rfl
  · simp [parse, hsrc, Function.comp_def, Text.joinWith_splitOn e.chars_ne_nil]

/-- A text that is written again has an ending at its end, and is as it was before. -/
theorem render_parse (src : String) :
    render e (parse e src) = if hasEnd src e.text then src else src ++ e.text := by
  apply String.toList_inj.mp
  rw [toList_render, joinWith_parse]
  cases hbody : Text.dropFinalWord? e.chars src.toList with
  | some body =>
    have hsplit := Text.dropFinalWord?_eq_some.mp hbody
    have hend : hasEnd src e.text = true := by simp [hasEnd, hsplit]
    rw [if_pos hend, Option.getD_some, hsplit]
  | none =>
    have hend : ¬ hasEnd src e.text = true := by
      rintro hend
      obtain ⟨body, hsplit⟩ := List.isSuffixOf_iff_suffix.mp hend
      rw [e.toList_text] at hsplit
      rw [Text.dropFinalWord?_eq_some.mpr hsplit.symm] at hbody
      cases hbody
    simp [hend]

/-! ## Lines -/

section

variable {lines : List String} (hne : lines ≠ []) (hplain : ∀ l ∈ lines, Text.Unbroken l.toList)

include hne hplain

/-- There are as many endings as lines. -/
theorem tally_render : LineEnding.tally (render e lines).toList = e.tallied lines.length := by
  rw [toList_render, Text.joinWith_append_word _ (by simpa using hne)]
  clear hne
  induction lines with
  | nil => cases e <;> rfl
  | cons l lines ih =>
    rw [List.forall_mem_cons] at hplain
    rw [List.map_cons, List.flatMap_cons, List.append_assoc, LineEnding.tally_append hplain.1]
    exact e.tally_chars_append (ih hplain.2)

/-- The text of lines shows its ending. -/
theorem detect_render : LineEnding.detect (render e lines).toList = e := by
  have htally := tally_render e hne hplain
  obtain ⟨l, rest, rfl⟩ := List.exists_cons_of_ne_nil hne
  exact LineEnding.detect_of_tally htally

theorem parse_render : parse e (render e lines) = lines := by
  have hbody : Text.dropFinalWord? e.chars (render e lines).toList =
      some (Text.joinWith e.chars (lines.map String.toList)) :=
    Text.dropFinalWord?_eq_some.mpr (toList_render e lines)
  have hpieces : Text.splitOn e.chars (Text.joinWith e.chars (lines.map String.toList)) =
      lines.map String.toList := by
    obtain ⟨a, w, hchars, ha⟩ := e.exists_chars_eq_cons
    rw [hchars]
    refine Text.splitOn_joinWith (by simpa using hne) ?_
    rintro _ hp hmem
    obtain ⟨l, hl, rfl⟩ := List.mem_map.mp hp
    exact ha.elim (hplain l hl a hmem).1 (hplain l hl a hmem).2
  simp [parse, render_ne_empty, hbody, hpieces, Function.comp_def]

end

end Lines

/-- A text can always be read. The format remembers the ending that was detected, and with it writes
the text to the letter, with that ending after it if it was not there already. Lines without line
breaks in them, of which there is at least one, are read again from what a format has written, by
any format, which then remembers the same ending. -/
theorem Format.text_round_trips (f g : Format .text) (path : String) :
    (∀ src, ∃ lines, (f.parse path src).1 = .ok lines ∧
      (f.parse path src).2.memory = LineEnding.detect src.toList ∧
      (f.parse path src).2.render lines =
        if hasEnd src (LineEnding.detect src.toList).text then src
        else src ++ (LineEnding.detect src.toList).text) ∧
    ∀ lines : List String, lines ≠ [] → (∀ l ∈ lines, Text.Unbroken l.toList) →
      (g.parse path (f.render lines)).1 = .ok lines ∧
        (g.parse path (f.render lines)).2.memory = f.memory := by
  refine ⟨fun src => ⟨_, rfl, rfl, Lines.render_parse _ src⟩, fun lines hne hplain => ?_⟩
  have hdetect : LineEnding.detect (f.render lines).toList = f.memory :=
    Lines.detect_render f.memory hne hplain
  refine ⟨?_, hdetect⟩
  have hread := Lines.parse_render f.memory hne hplain
  simp only [parse, readNode, hdetect]
  exact congrArg Except.ok hread

/-- A text with all three line breaks and none at its end, and lines of which one is empty. -/
theorem Format.text_round_trips_mixed :
    let f : Format .text := { Format.text with memory := .crlf }
    (f.parse "a.txt" "a\nb\r\nc\rd\r\n\r\ne").2.memory = .crlf ∧
      (∃ lines, (f.parse "a.txt" "a\nb\r\nc\rd\r\n\r\ne").1 = .ok lines ∧
        (f.parse "a.txt" "a\nb\r\nc\rd\r\n\r\ne").2.render lines =
          "a\nb\r\nc\rd\r\n\r\ne\r\n") ∧
      f.render ["", "x"] = "\r\nx\r\n" ∧
      (Format.text.parse "a.txt" "\r\nx\r\n").1 = .ok ["", "x"] ∧
      (Format.text.parse "a.txt" "\r\nx\r\n").2.memory = .crlf := by
  intro f
  obtain ⟨htext, hlines⟩ := Format.text_round_trips f Format.text "a.txt"
  obtain ⟨lines, hread, -, hwritten⟩ := htext "a\nb\r\nc\rd\r\n\r\ne"
  obtain ⟨hagain, hending⟩ := hlines ["", "x"] (by simp) (by decide)
  exact ⟨rfl, ⟨lines, hread, hwritten⟩, rfl, hagain, hending⟩

end Codemod
