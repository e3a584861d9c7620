import Codemod.Format
import Codemod.Proofs.Json.Reading
import Codemod.Proofs.Text.Indent
import Codemod.Proofs.Text.LineEnding

/-!
# Documents that are written and read again

A document that was written under some layout is read again as the value it was written from, and
shows its layout: its line ending always, its unit of indentation as soon as a line is indented. So
it is written again to the letter, whatever unit is set for documents that show none.

## Main results

* `Json.toList_render` — documents from pieces.
* `Json.eol_detect`, `Json.unit_detect` — the layout of a document.
* `Format.json_parse_render` — the round trip.
-/

namespace Codemod

namespace Json

/-- The level of the line that a piece begins. -/
def Piece.level? : Piece → Option Nat
  | chars _ => none
  | newline level => some level

/-! ## Documents from pieces -/

section Pieces

variable {unit : String} {e : LineEnding} {a b : Nat} {ps : List Piece}

theorem replaceAll_textOf (hunit : Text.Unbroken unit.toList) (h : Laid a ps b) :
    Text.replaceAll ['\n'] ['\r', '\n'] (textOf (Layout.breaks ⟨unit, .lf⟩) ps) =
      textOf (Layout.breaks ⟨unit, .crlf⟩) ps := by
  induction h with
  | nil => rfl
  | @chars _ _ s ps plain _ ih =>
    rw [textOf, textOf, Text.replaceAll_append plain.newline_notMem, ih]
  | @newline _ _ k c s ps _ _ _ plain _ ih =>
    simp only [textOf, Layout.breaks, LineEnding.chars, List.append_assoc]
    have hindent := (hunit.replicate_flatten k).newline_notMem
    rw [List.singleton_append, Text.replaceAll_cons, Text.replaceAll_append hindent,
      Text.replaceAll_append plain.newline_notMem, ih]

/-- A document is written from the pieces of its value. -/
theorem toList_render (hunit : Text.Unbroken unit.toList) {v : Json}
    (hv : v.All IsOrdinary) :
    (Layout.render ⟨unit, e⟩ v).toList =
      textOf (Layout.breaks ⟨unit, e⟩) (pieces 0 v) ++ e.chars := by
  have hpretty := toList_prettyAt unit 0 v
  have heol : e.text.toList = e.chars := String.toList_ofList
  cases e with
  | lf => rw [Layout.render, String.toList_append, heol, pretty, hpretty]
  | crlf =>
    have hreplace := replaceAll_textOf hunit (laid_pieces 0 v hv)
    rw [Layout.render, String.toList_append, heol, pretty, substitute, String.toList_ofList,
      hpretty, heol]
    exact congrArg (· ++ _) hreplace

/-! ## The line ending of a document -/

theorem tally_textOf (hunit : Text.Unbroken unit.toList) (h : Laid a ps b) :
    ∃ n, LineEnding.tally (textOf (Layout.breaks ⟨unit, e⟩) ps ++ e.chars) =
      e.tallied (n + 1) := by
  induction h with
  | nil =>
    have hone := e.tally_chars_append (t := []) (n := 0) (by cases e <;> rfl)
    exact ⟨0, by rwa [List.append_nil] at hone⟩
  | @chars _ _ s ps plain _ ih =>
    rwa [textOf, List.append_assoc, LineEnding.tally_append plain]
  | @newline _ _ k c s ps _ _ _ plain _ ih =>
    obtain ⟨n, hn⟩ := ih
    refine ⟨n + 1, ?_⟩
    simp only [textOf, Layout.breaks, List.append_assoc]
    refine e.tally_chars_append ?_
    rw [LineEnding.tally_append (hunit.replicate_flatten k), LineEnding.tally_append plain, hn]

end Pieces

/-! ## Units of blanks -/

theorem isBlank_chars (e : LineEnding) : ∀ c ∈ e.chars, isBlank c = true := by
  cases e <;> simp [LineEnding.chars, isBlank]

section Blank

variable {unit : String} (hunit : ∀ c ∈ unit.toList, c = ' ' ∨ c = '\t')

include hunit

theorem unbroken_of_blank : Text.Unbroken unit.toList := by
  intro c hc
  rcases hunit c hc with rfl | rfl <;> decide

theorem isBlank_breaks (e : LineEnding) (k : Nat) :
    ∀ c ∈ Layout.breaks ⟨unit, e⟩ k, isBlank c = true := by
  rw [Layout.breaks, List.forall_mem_append]
  refine ⟨isBlank_chars e, fun c hc => ?_⟩
  obtain ⟨s, hs, hc⟩ := List.mem_flatten.mp hc
  obtain rfl := (List.mem_replicate.mp hs).2
  rcases hunit c hc with rfl | rfl <;> rfl

end Blank

/-! ## The unit of a document -/

section Unit

variable {u : Indent} {e : LineEnding} {a b : Nat} {ps : List Piece}

theorem blank_of_mem_text (u : Indent) : ∀ c ∈ u.text.toList, c = ' ' ∨ c = '\t' := by
  intro c hc
  rw [Indent.text, String.toList_ofList] at hc
  exact u.isBlank_of_mem_chars hc

theorem unbroken_text (u : Indent) : Text.Unbroken u.text.toList :=
  unbroken_of_blank (blank_of_mem_text u)

theorem breaks_eq (u : Indent) (e : LineEnding) (k : Nat) :
    Layout.breaks ⟨u.text, e⟩ k = e.chars ++ (u.times k).chars := by
  rw [Layout.breaks, u.chars_times, Indent.text, String.toList_ofList]

/-- A line ends before the line break. -/
theorem exists_chars_eq (e : LineEnding) : ∃ r, e.chars = r ++ ['\n'] ∧ '\n' ∉ r := by
  cases e
  · exact ⟨[], rfl, by decide⟩
  · exact ⟨['\r'], rfl, by decide⟩

/-- A line at level `a` that comes after one at level `a'`, with a line break and whatever else. -/
theorem stepsFrom_line_append (hu : 0 < u.width) {a a' : Nat} (up : a ≤ a' + 1)
    (down : a' ≤ a + 1) {c : Char} (mark : Text.isBlank c = false) {s : List Char}
    (plain : Text.Unbroken (c :: s)) (t : List Char) :
    Indent.stepsFrom (u.memory a') (Text.splitOn ['\n'] ((u.times a).chars ++ (c :: s ++
        (e.chars ++ t)))) =
      (if a = 0 ∨ a = a' then [] else [u]) ++
        Indent.stepsFrom (u.memory a) (Text.splitOn ['\n'] t) := by
  obtain ⟨r, hr, hrn⟩ := exists_chars_eq e
  have hassoc : (u.times a).chars ++ (c :: s ++ (e.chars ++ t)) =
      ((u.times a).chars ++ c :: (s ++ r)) ++ '\n' :: t := by
    simp [hr]
  have hplain : '\n' ∉ (u.times a).chars ++ c :: (s ++ r) := by
    rw [← List.cons_append, List.mem_append, List.mem_append]
    rintro (h | h | h)
    · rcases Indent.isBlank_of_mem_chars _ h with h | h <;> cases h
    · exact plain.newline_notMem h
    · exact hrn h
  rw [hassoc, Text.splitOn_append_cons, Text.splitOn_of_notMem hplain, List.singleton_append,
    Indent.stepsFrom_line hu up down mark]

/-- The lines of a document have the levels of its line breaks. The line at level `a` that has been
begun comes after one at level `a'`. -/
theorem stepsFrom_textOf (hu : 0 < u.width) (h : Laid a ps b) {a' : Nat} (up : a ≤ a' + 1)
    (down : a' ≤ a + 1) {c : Char} (mark : Text.isBlank c = false) {s : List Char}
    (plain : Text.Unbroken (c :: s)) :
    Indent.stepsFrom (u.memory a') (Text.splitOn ['\n'] ((u.times a).chars ++ (c :: s ++
        (textOf (Layout.breaks ⟨u.text, e⟩) ps ++ e.chars)))) =
      u.levelSteps a' (a :: ps.filterMap Piece.level?) := by
  induction h generalizing a' c s with
  | nil a =>
    have hlast := stepsFrom_line_append (e := e) hu up down mark plain []
    rw [List.append_nil] at hlast
    exact hlast
  | @chars _ _ s' ps plain' _ ih =>
    have hlonger : Text.Unbroken (c :: (s ++ s')) := by
      rw [← List.cons_append, Text.unbroken_append]
      exact ⟨plain, plain'⟩
    have hrest := ih up down mark hlonger
    rw [textOf, List.filterMap_cons_none rfl]
    simpa using hrest
  | @newline a _ k c' s' ps up' down' mark' plain' _ ih =>
    have hrest := ih up' down' mark' plain'
    rw [textOf, textOf, breaks_eq]
    simp only [List.append_assoc]
    rw [stepsFrom_line_append hu up down mark plain, hrest]
    rfl

theorem steps_textOf (hu : 0 < u.width) {c : Char} (mark : Text.isBlank c = false) {s : List Char}
    (h : Laid 0 (.chars (c :: s) :: ps) b) :
    Indent.steps (textOf (Layout.breaks ⟨u.text, e⟩) (.chars (c :: s) :: ps) ++ e.chars) =
      u.levelSteps 0 (0 :: ps.filterMap Piece.level?) := by
  cases h with
  | chars plain rest =>
    have hsteps := stepsFrom_textOf (e := e) hu rest (Nat.zero_le 1) (Nat.zero_le 1) mark plain
    rw [textOf, List.append_assoc]
    simpa [Indent.steps, Indent.memory, Indent.times, Indent.chars] using hsteps

/-- A value is written on one line, or its first line break begins a line at the first level. -/
theorem pieces_cases (v : Json) :
    (∃ s, ∀ level, pieces level v = [.chars s]) ∨
      ∃ c ps, pieces 0 v = .chars [c] :: .newline 1 :: ps := by
  cases v with
  | null => exact .inl ⟨_, fun _ => by rw [pieces]⟩
  | bool b => cases b <;> exact .inl ⟨_, fun _ => by rw [pieces]⟩
  | num n => exact .inl ⟨_, fun _ => by rw [pieces]⟩
  | str s => exact .inl ⟨_, fun _ => by rw [pieces]⟩
  | arr items =>
    cases items with
    | nil => exact .inl ⟨_, fun _ => by rw [pieces]⟩
    | cons v rest => exact .inr ⟨'[', _, by rw [pieces]⟩
  | obj members =>
    cases members with
    | nil => exact .inl ⟨_, fun _ => by rw [pieces]⟩
    | cons m rest => exact .inr ⟨'\x7b', _, by rw [pieces]⟩

end Unit

/-! ## Round trips -/

section RoundTrip

variable {u : Indent} {e : LineEnding} {v : Json}

/-- What is written is read again. -/
theorem parse_render (u : Indent) (e : LineEnding) (hv : v.All IsOrdinary)
    (hdepth : v.nesting < maxDepth) : parse (Layout.render ⟨u.text, e⟩ v) = .ok v := by
  rw [parse, toList_render (unbroken_text u) hv,
    read_pieces (isBlank_breaks (blank_of_mem_text u) e) hv hdepth (isBlank_chars e)]

theorem eol_detect (u : Indent) (e : LineEnding) (hv : v.All IsOrdinary) (unit : String) :
    (Layout.detect unit (Layout.render ⟨u.text, e⟩ v)).eol = e := by
  obtain ⟨n, hn⟩ := tally_textOf (e := e) (unbroken_text u) (laid_pieces 0 v hv)
  rw [← toList_render (unbroken_text u) hv] at hn
  exact LineEnding.detect_of_tally hn

/-- A document of more than one line shows its unit. -/
theorem unit_detect (hu : 0 < u.width) (hv : v.All IsOrdinary) {c : Char} {ps : List Piece}
    (hpieces : pieces 0 v = .chars [c] :: .newline 1 :: ps) (unit : String) :
    (Layout.detect unit (Layout.render ⟨u.text, e⟩ v)).unit = u.text := by
  have hlaid := laid_pieces 0 v hv
  obtain ⟨d, s, qs, hfull, mark, -⟩ := startsFull_pieces 0 hv
  obtain ⟨rfl, rfl⟩ : c = d ∧ [] = s :=
    List.cons.inj (Piece.chars.inj (List.cons.inj (hpieces.symm.trans hfull)).1)
  rw [hpieces] at hlaid
  have hsteps := steps_textOf (e := e) hu mark hlaid
  rw [← hpieces, ← toList_render (unbroken_text u) hv] at hsteps
  have hdetect : Indent.detect (Layout.render ⟨u.text, e⟩ v).toList = some u := by
    refine Indent.detect_of_steps (fun i hi => ?_) ?_
    · rw [hsteps] at hi
      exact Indent.eq_of_mem_levelSteps hi
    · rw [hsteps]
      simp [Piece.level?, Indent.levelSteps]
  rw [Layout.detect, hdetect]
  rfl

/-- In a document of one line no line is indented. -/
theorem head?_of_oneLine (hv : v.All IsOrdinary) {s : List Char}
    (hpieces : pieces 0 v = [.chars s]) {line : List Char}
    (hline : line ∈ Text.splitOn ['\n'] (Layout.render ⟨u.text, e⟩ v).toList) :
    line.head? ≠ some ' ' ∧ line.head? ≠ some '\t' := by
  obtain ⟨c, s', qs, hfull, mark, -⟩ := startsFull_pieces 0 hv
  obtain rfl : s = c :: s' := Piece.chars.inj (List.cons.inj (hpieces.symm.trans hfull)).1
  obtain ⟨r, hr, hrn⟩ := exists_chars_eq e
  have hplain : '\n' ∉ c :: s' ++ r := by
    have hlaid := hpieces ▸ laid_pieces 0 v hv
    cases hlaid with
    | chars plain _ =>
      rw [List.mem_append]
      rintro (h | h)
      · exact plain.newline_notMem h
      · exact hrn h
  rw [toList_render (unbroken_text u) hv, hpieces, textOf, textOf, List.append_nil, hr,
    ← List.append_assoc, Text.splitOn_append_cons, Text.splitOn_of_notMem hplain] at hline
  rcases List.mem_cons.mp hline with rfl | hline
  · constructor <;> (intro h; cases h; simp [Text.isBlank] at mark)
  · simp [List.mem_singleton.mp hline]

/-- A document of one line does not depend on the unit. -/
theorem render_of_oneLine {s : List Char} (hpieces : pieces 0 v = [.chars s])
    (unit unit' : String) : Layout.render ⟨unit, e⟩ v = Layout.render ⟨unit', e⟩ v := by
  have hpretty : v.pretty unit = v.pretty unit' := by
    rw [← String.toList_inj, pretty, pretty, toList_prettyAt, toList_prettyAt, hpieces]
    rfl
  cases e <;> simp only [Layout.render, hpretty]

end RoundTrip

end Json

/-- A value with whole numbers only, with distinct names and not nested too deep, is written by a
format that remembers a unit of spaces or of tabs and a line ending. Any format, whatever it has
been set to and remembers, reads the same value from the text; it remembers the same line ending
afterwards, and the same unit if a line of the text is indented; and it writes the text again to the
letter. -/
theorem Format.json_parse_render {f : Format .json} {u : Indent} {e : LineEnding}
    (hf : f.memory = ⟨u.text, e⟩) (hu : 0 < u.width) {v : Json} (hv : v.All Json.IsOrdinary)
    (hdepth : v.nesting < Json.maxDepth) (g : Format .json) (path : String) :
    (g.parse path (f.render v)).1 = .ok v ∧
      (g.parse path (f.render v)).2.memory.eol = e ∧
      ((∃ line ∈ Text.splitOn ['\n'] (f.render v).toList,
          line.head? = some ' ' ∨ line.head? = some '\t') →
        (g.parse path (f.render v)).2.memory.unit = u.text) ∧
      (g.parse path (f.render v)).2.render v = f.render v := by
  have htext : f.render v = Json.Layout.render ⟨u.text, e⟩ v := by
    rw [← hf]
    rfl
  have hmemory : (g.parse path (f.render v)).2.memory =
      Json.Layout.detect g.settings (Json.Layout.render ⟨u.text, e⟩ v) := by
    rw [← htext]
    rfl
  have heol : (g.parse path (f.render v)).2.memory.eol = e := by
    rw [hmemory]
    exact Json.eol_detect u e hv g.settings
  have hread : (g.parse path (f.render v)).1 = .ok v := by
    simp only [parse, readNode, htext, Json.parse_render u e hv hdepth]
  have hagain : (g.parse path (f.render v)).2.render v =
      Json.Layout.render ⟨(g.parse path (f.render v)).2.memory.unit, e⟩ v := by
    rw [← heol]
    rfl
  refine ⟨hread, heol, ?_⟩
  obtain ⟨s, hline⟩ | ⟨c, ps, hlines⟩ := Json.pieces_cases v
  · constructor
    · rintro ⟨line, hmem, hhead⟩
      rw [htext] at hmem
      have hnone := Json.head?_of_oneLine hv (hline 0) hmem
      exact (hhead.elim hnone.1 hnone.2).elim
    · exact hagain.trans ((Json.render_of_oneLine (hline 0) _ _).trans htext.symm)
  · have hunit : (g.parse path (f.render v)).2.memory.unit = u.text := by
      rw [hmemory]
      exact Json.unit_detect hu hv hlines g.settings
    rw [hunit] at hagain
    exact ⟨fun _ => hunit, hagain.trans htext.symm⟩

namespace Sample

/-- Line breaks in a string, an empty object, and the least and the greatest number. -/
def document : Json :=
  .obj [
    ("b", .arr [.num (.int (-9223372036854775808)), .str "x\r\ny", .obj []]),
    ("a", .num (.int 18446744073709551615))]

/-- The document, written with two tabs. -/
def written : String :=
  "\x7b\r\n" ++
  "\t\t\"b\": [\r\n" ++
  "\t\t\t\t-9223372036854775808,\r\n" ++
  "\t\t\t\t\"x\\r\\ny\",\r\n" ++
  "\t\t\t\t\x7b\x7d\r\n" ++
  "\t\t],\r\n" ++
  "\t\t\"a\": 18446744073709551615\r\n" ++
  "\x7d\r\n"

theorem isOrdinary_document : document.All Json.IsOrdinary := by
  simp [document, Json.All, Json.AllMembers, Json.AllItems, Json.IsOrdinary]

end Sample

/-- Written with two tabs and read by a format that is set to three spaces. -/
theorem Format.json_parse_render_tabs :
    let f : Format .json := { Format.json with memory := ⟨Indent.text ⟨true, 2⟩, .crlf⟩ }
    let g := Format.json "   "
    f.render Sample.document = Sample.written ∧
      (g.parse "a.json" Sample.written).1 = .ok Sample.document ∧
      (g.parse "a.json" Sample.written).2.memory.eol = .crlf ∧
      (g.parse "a.json" Sample.written).2.memory.unit = "\t\t" ∧
      (g.parse "a.json" Sample.written).2.render Sample.document = Sample.written := by
  intro f g
  have htext : f.render Sample.document = Sample.written := by decide +kernel
  obtain ⟨hread, heol, hunit, hagain⟩ := Format.json_parse_render (f := f) (u := ⟨true, 2⟩) rfl
    (by decide) Sample.isOrdinary_document (by decide) g "a.json"
  rw [htext] at hread heol hunit hagain
  have hindented : ∃ line ∈ Text.splitOn ['\n'] Sample.written.toList,
      line.head? = some ' ' ∨ line.head? = some '\t' := by
    decide +kernel
  exact ⟨htext, hread, heol, hunit hindented, hagain⟩

end Codemod
