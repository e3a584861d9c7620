import Codemod.Proofs.Patch.Hunk
import Codemod.Proofs.Patch.Lines
import Codemod.Proofs.Text.Unbroken

/-!
# Unified diffs are patches

What a diff says after its header can be read again: the hunks, line by line, and the numbers in
their headers. The hunks that are read lead from the text before to the text after and back, with
their lines checked against the text they are applied to.

The numbers are not to be trusted throughout. Moving changes together leaves marks behind that no
longer hold, and a hunk that begins or ends with a change has its header taken from such a mark on
the side that has no lines there. A reader has to count the lines of a hunk, and to put a hunk that
begins with a change at the top.

## Main definitions

* `readHunks` — the hunks that a text shows.
* `applyText`, `revertText` — the text before or after, given the other one and the hunks.
* `Hunk.IsCounted` — where the numbers in the header agree with the lines of the hunk.

## Main results

* `readHunks_text` — written hunks are read again.
* `unified_is_patch` — a diff leads from one text to the other and back.
-/

namespace Codemod.Patch

/-! ## Reading hunks -/

def Mark.ofChar? : Char → Option Mark
  | ' ' => some .kept
  | '-' => some .removed
  | '+' => some .added
  | _ => none

/-- Reads a span from the front of a text: how many lines come before it and before its end, and
what is left of the text. -/
def readSpan (s : List Char) : (Nat × Nat) × List Char :=
  let line := Nat.ofDigitChars 10 (s.takeWhile Char.isDigit) 0
  match s.dropWhile Char.isDigit with
  | ',' :: s =>
    let count := Nat.ofDigitChars 10 (s.takeWhile Char.isDigit) 0
    let start := if count = 0 then line else line - 1
    ((start, start + count), s.dropWhile Char.isDigit)
  | s => ((line - 1, line - 1 + 1), s)

/-- Reads the spans of a header, after the four characters `@@ -` and the two characters ` +`. -/
def readHeader (l : Line) : (Nat × Nat) × (Nat × Nat) :=
  let (old, s) := readSpan (l.drop 4)
  (old, (readSpan (s.drop 2)).1)

/-- Whether the lines go on with a notice about the line before them. -/
def isNoticeNext (ls : List Line) : Bool :=
  ls.head?.bind List.head? == some '\\'

/-- Reads the lines of a diff: what stands before the first header, and the hunks from there on. -/
def readLines : List Line → List (Mark × Line) × List Hunk
  | [] => ([], [])
  | [] :: rest => readLines rest
  | (c :: l) :: rest =>
    let (body, hs) := readLines rest
    if c = '@' then
      let (oldSpan, newSpan) := readHeader (c :: l)
      ([], { oldSpan, newSpan, lines := body } :: hs)
    else
      match Mark.ofChar? c with
      | some m => ((m, if isNoticeNext rest then l.dropLast else l) :: body, hs)
      | none => (body, hs)

/-- The hunks that a text shows. -/
def readHunks (body : List Char) : List Hunk :=
  (readLines (splitLines body)).2

/-! ## Writing and reading again -/

/-- A hunk with its spans as they can be read: a span that ends before it starts is empty. -/
def Hunk.shown (h : Hunk) : Hunk :=
  { h with
    oldSpan := (h.oldSpan.1, h.oldSpan.1 + (h.oldSpan.2 - h.oldSpan.1))
    newSpan := (h.newSpan.1, h.newSpan.1 + (h.newSpan.2 - h.newSpan.1)) }

theorem takeWhile_toString (n : Nat) {c : Char} (hc : c.isDigit = false) (rest : List Char) :
    ((toString n).toList ++ c :: rest).takeWhile Char.isDigit = (toString n).toList := by
  rw [List.takeWhile_append_of_pos fun _ => Text.isDigit_of_mem_toString,
    List.takeWhile_cons_of_neg (by simp [hc]), List.append_nil]

theorem dropWhile_toString (n : Nat) {c : Char} (hc : c.isDigit = false) (rest : List Char) :
    ((toString n).toList ++ c :: rest).dropWhile Char.isDigit = c :: rest := by
  rw [List.dropWhile_append_of_pos fun _ => Text.isDigit_of_mem_toString,
    List.dropWhile_cons_of_neg (by simp [hc])]

theorem readSpan_pair (line count : Nat) (rest : List Char) :
    readSpan ((toString line).toList ++ ',' :: ((toString count).toList ++ ' ' :: rest)) =
      ((if count = 0 then (line, line + count) else (line - 1, line - 1 + count)),
        ' ' :: rest) := by
  rw [readSpan, takeWhile_toString _ (by decide), dropWhile_toString _ (by decide),
    Text.ofDigitChars_toString]
  split
  next s hs =>
    obtain rfl := (List.cons.inj hs).2
    rw [takeWhile_toString _ (by decide), dropWhile_toString _ (by decide),
      Text.ofDigitChars_toString]
    split <;> simp_all
  next s hs => exact absurd rfl (hs _)

theorem readSpan_spanText (start stop : Nat) (rest : List Char) :
    readSpan ((spanText (start, stop)).toList ++ ' ' :: rest) =
      ((start, start + (stop - start)), ' ' :: rest) := by
  unfold spanText
  dsimp only
  split
  next hone =>
    rw [readSpan, takeWhile_toString _ (by decide), dropWhile_toString _ (by decide),
      Text.ofDigitChars_toString]
    simp [hone]
  split
  next hzero =>
    have hread := readSpan_pair start 0 rest
    rw [String.toList_append, List.append_assoc, hzero]
    exact hread
  next hmore =>
    have hread := readSpan_pair (start + 1) (stop - start) rest
    rw [String.toList_append, String.toList_append, List.append_assoc, List.append_assoc]
    simpa [hmore] using hread

/-! The text of a hunk falls into a header and the texts of its lines. -/

namespace Hunk

/-- The line that a hunk begins with. -/
def headerLine (h : Hunk) : Line :=
  ("@@ -" ++ spanText h.oldSpan ++ " +" ++ spanText h.newSpan ++ " @@\n").toList

/-- The lines that show one line of a hunk. -/
def shownLine : Mark × Line → List Line
  | (m, l) =>
    if isTerminated l then [m.text.toList ++ l]
    else [m.text.toList ++ l ++ ['\n'], "\\ No newline at end of file\n".toList]

def shownLines (h : Hunk) : List Line :=
  h.headerLine :: h.lines.flatMap shownLine

theorem flatten_shownLine (x : Mark × Line) : (shownLine x).flatten = (lineText x).toList := by
  obtain ⟨m, l⟩ := x
  by_cases h : isTerminated l = true <;> simp [shownLine, lineText, h]

theorem flatten_shownLines (h : Hunk) : h.shownLines.flatten = h.text.toList := by
  have hlines : (h.lines.flatMap shownLine).flatten =
      h.lines.flatMap fun x => (lineText x).toList := by
    rw [List.flatMap, List.flatten_flatten]
    simp [List.flatMap, flatten_shownLine, Function.comp_def]
  simp [shownLines, text, headerLine, hlines, List.flatMap_map]

end Hunk

theorem Mark.ofChar?_text (m : Mark) : ∃ c, m.text.toList = [c] ∧ Mark.ofChar? c = some m ∧
    c ≠ '@' ∧ c ≠ '\\' ∧ c ≠ '\n' ∧ c ≠ '\r' := by
  cases m
  · exact ⟨' ', by decide⟩
  · exact ⟨'-', by decide⟩
  · exact ⟨'+', by decide⟩

/-- None of the lines that show a hunk begins or ends in a way that could run two of them
together. -/
def IsShown (l : Line) : Prop :=
  IsLine l ∧ isTerminated l = true ∧ l.head? ≠ some '\n'

theorem isTerminated_append_newline (s : List Char) : isTerminated (s ++ ['\n']) = true := by
  simp [isTerminated]

theorem IsShown.of_cons {c : Char} (hn : c ≠ '\n') {l : Line} (h : IsLine (c :: l))
    (ht : isTerminated (c :: l) = true) : IsShown (c :: l) :=
  ⟨h, ht, fun e => hn (Option.some.inj e)⟩

theorem isShown_shownLine {m : Mark} {l : Line} (h : IsLine l) :
    ∀ k ∈ Hunk.shownLine (m, l), IsShown k := by
  obtain ⟨c, hc, -, -, -, hn, hr⟩ := m.ofChar?_text
  rw [Hunk.shownLine, hc]
  split
  next ht =>
    rw [List.forall_mem_singleton]
    exact .of_cons hn (h.cons hn hr) ((isTerminated_cons h.ne_nil).trans ht)
  next ht =>
    have hl := (h.append_newline (by simpa using ht)).cons hn hr
    rw [List.forall_mem_cons, List.forall_mem_singleton]
    refine ⟨.of_cons hn hl (isTerminated_append_newline (c :: l)), ?_⟩
    unfold IsShown IsLine
    decide

/-- A text without a line break in it, and one after it. -/
theorem isLine_of_unbroken {s : List Char} (h : Text.Unbroken s) : IsLine (s ++ ['\n']) := by
  induction s with
  | nil => rfl
  | cons c s ih =>
    rw [Text.unbroken_cons] at h
    exact (ih h.2).cons h.1.1 h.1.2

theorem unbroken_spanText (span : Nat × Nat) : Text.Unbroken (spanText span).toList := by
  unfold spanText
  dsimp only
  split
  · exact Text.unbroken_toString _
  split
  · rw [String.toList_append, Text.unbroken_append]
    exact ⟨Text.unbroken_toString _, by decide⟩
  · rw [String.toList_append, String.toList_append, Text.unbroken_append, Text.unbroken_append]
    exact ⟨⟨Text.unbroken_toString _, by decide⟩, Text.unbroken_toString _⟩

theorem Hunk.headerLine_eq (h : Hunk) : h.headerLine =
    '@' :: ("@ -".toList ++ ((spanText h.oldSpan).toList ++
      (" +".toList ++ ((spanText h.newSpan).toList ++ " @@".toList))) ++ ['\n']) := by
  simp [headerLine]

theorem isShown_headerLine (h : Hunk) : IsShown h.headerLine := by
  have hplain : Text.Unbroken ("@ -".toList ++ ((spanText h.oldSpan).toList ++
      (" +".toList ++ ((spanText h.newSpan).toList ++ " @@".toList)))) := by
    simp only [Text.unbroken_append]
    exact ⟨by decide, unbroken_spanText _, by decide, unbroken_spanText _, by decide⟩
  rw [h.headerLine_eq]
  exact .of_cons (by decide) ((isLine_of_unbroken hplain).cons (by decide) (by decide))
    (isTerminated_append_newline ('@' :: _))

theorem splitLines_text {hs : List Hunk} (h : ∀ k ∈ hs, ∀ x ∈ k.lines, IsLine x.2) :
    splitLines (String.join (hs.map Hunk.text)).toList = hs.flatMap Hunk.shownLines := by
  have hflat : (String.join (hs.map Hunk.text)).toList = (hs.flatMap Hunk.shownLines).flatten := by
    simp [List.flatMap, ← Hunk.flatten_shownLines, Function.comp_def, List.flatten_flatten]
  rw [hflat]
  refine splitLines_flatten fun l hl => ?_
  obtain ⟨k, hk, hl⟩ := List.mem_flatMap.mp hl
  rcases List.mem_cons.mp hl with rfl | hl
  · exact isShown_headerLine k
  · obtain ⟨x, hx, hl⟩ := List.mem_flatMap.mp hl
    exact isShown_shownLine (h k hk x hx) l hl

theorem readHeader_headerLine (h : Hunk) :
    readHeader h.headerLine = (h.shown.oldSpan, h.shown.newSpan) := by
  have hold := readSpan_spanText h.oldSpan.1 h.oldSpan.2
    ('+' :: ((spanText h.newSpan).toList ++ " @@\n".toList))
  have hnew := readSpan_spanText h.newSpan.1 h.newSpan.2 "@@\n".toList
  have hdrop : h.headerLine.drop 4 = (spanText h.oldSpan).toList ++
      ' ' :: '+' :: ((spanText h.newSpan).toList ++ " @@\n".toList) := by
    simp [h.headerLine_eq]
  rw [readHeader, hdrop, hold]
  exact congrArg (Prod.mk _) (congrArg Prod.fst hnew)

theorem isNoticeNext_shownLine (m : Mark) (l : Line) (rest : List Line) :
    isNoticeNext (Hunk.shownLine (m, l) ++ rest) = false := by
  obtain ⟨c, hc, -, -, hnotice, -, -⟩ := m.ofChar?_text
  rw [Hunk.shownLine, hc]
  split <;> simpa [isNoticeNext] using hnotice

/-- One line of a hunk is read from the lines that show it. -/
theorem readLines_shownLine (m : Mark) (l : Line) {rest : List Line}
    (hrest : isNoticeNext rest = false) :
    readLines (Hunk.shownLine (m, l) ++ rest) =
      ((m, l) :: (readLines rest).1, (readLines rest).2) := by
  obtain ⟨c, hc, hm, hat, -, -, -⟩ := m.ofChar?_text
  rw [Hunk.shownLine, hc]
  split
  · simp [readLines, hat, hm, hrest]
  · -- the notice is passed over, and takes the line break before it back
    have hnotice : readLines ("\\ No newline at end of file\n".toList :: rest) = readLines rest :=
      rfl
    have hnext : isNoticeNext ("\\ No newline at end of file\n".toList :: rest) = true := rfl
    simp only [List.cons_append, List.nil_append, readLines, hat, if_false, hm, hnext, if_true,
      hnotice, List.dropLast_concat]

theorem readLines_flatMap (ls : List (Mark × Line)) {rest : List Line}
    (hrest : isNoticeNext rest = false) :
    readLines (ls.flatMap Hunk.shownLine ++ rest) =
      (ls ++ (readLines rest).1, (readLines rest).2) ∧
      isNoticeNext (ls.flatMap Hunk.shownLine ++ rest) = false := by
  induction ls with
  | nil => exact ⟨rfl, hrest⟩
  | cons x ls ih =>
    obtain ⟨m, l⟩ := x
    rw [List.flatMap_cons, List.append_assoc, readLines_shownLine m l ih.2, ih.1]
    exact ⟨rfl, isNoticeNext_shownLine m l _⟩

theorem readLines_shownLines (hs : List Hunk) :
    readLines (hs.flatMap Hunk.shownLines) = ([], hs.map Hunk.shown) ∧
      isNoticeNext (hs.flatMap Hunk.shownLines) = false := by
  induction hs with
  | nil => exact ⟨rfl, rfl⟩
  | cons h hs ih =>
    have hbody := (readLines_flatMap h.lines ih.2).1
    rw [ih.1, List.append_nil] at hbody
    have hheader := readHeader_headerLine h
    rw [List.flatMap_cons, Hunk.shownLines, List.cons_append]
    rw [h.headerLine_eq] at hheader ⊢
    refine ⟨?_, rfl⟩
    simp only [readLines, if_true, hheader, hbody]
    rfl

/-- Written hunks are read again, with their lines as they are. -/
theorem readHunks_text {hs : List Hunk} (h : ∀ k ∈ hs, ∀ x ∈ k.lines, IsLine x.2) :
    readHunks (String.join (hs.map Hunk.text)).toList = hs.map Hunk.shown := by
  rw [readHunks, splitLines_text h, (readLines_shownLines hs).1]

/-! ## Diffs as patches -/

/-- What a diff says before its hunks. -/
def headerText (path before after : String) : String :=
  modeText path before after ++ "--- a/" ++ path ++ "\n+++ b/" ++ path ++ "\n"

/-- The text that the hunks in `body` make of `before`. -/
def applyText (body before : String) : Option String :=
  (patch (readHunks body.toList) (splitLines before.toList)).map fun ls => String.ofList ls.flatten

/-- The text that the hunks in `body` have made `after` of. -/
def revertText (body after : String) : Option String :=
  (unpatch (readHunks body.toList) (splitLines after.toList)).map fun ls => String.ofList ls.flatten

/-- The header gives the place and the number of the hunk's lines of either side that both the first
and the last line belong to. -/
structure Hunk.IsCounted (h : Hunk) : Prop where
  old : h.first? ≠ some .added → h.last? ≠ some .added →
    h.oldSpan = (h.oldPlace, h.oldPlace + h.old.length)
  new : h.first? ≠ some .removed → h.last? ≠ some .removed →
    h.newSpan = (h.newPlace, h.newPlace + h.new.length)

theorem Hunk.Fits.isCounted_shown {h : Hunk} (hh : h.Fits h.oldPlace h.newPlace) :
    h.shown.IsCounted where
  old hfirst hlast := by
    show (h.oldSpan.1, h.oldSpan.1 + (h.oldSpan.2 - h.oldSpan.1)) =
      (h.oldPlace, h.oldPlace + h.old.length)
    rw [hh.oldStart hfirst, hh.oldStop hlast, Nat.add_sub_cancel_left]
  new hfirst hlast := by
    show (h.newSpan.1, h.newSpan.1 + (h.newSpan.2 - h.newSpan.1)) =
      (h.newPlace, h.newPlace + h.new.length)
    rw [hh.newStart hfirst, hh.newStop hlast, Nat.add_sub_cancel_left]

theorem exchange_map (place : Hunk → Nat) (out into : Hunk → List Line) (f : Hunk → Hunk)
    (pos : Nat) (hs : List Hunk) (ls : List Line) :
    exchange place out into pos (hs.map f) ls =
      exchange (place ∘ f) (out ∘ f) (into ∘ f) pos hs ls := by
  induction hs generalizing pos ls with
  | nil => rfl
  | cons h hs ih => simp only [List.map_cons, exchange, ih, Function.comp_apply]

theorem patch_map_shown (hs : List Hunk) (ls : List Line) :
    patch (hs.map Hunk.shown) ls = patch hs ls :=
  exchange_map _ _ _ Hunk.shown 0 hs ls

theorem unpatch_map_shown (hs : List Hunk) (ls : List Line) :
    unpatch (hs.map Hunk.shown) ls = unpatch hs ls :=
  exchange_map _ _ _ Hunk.shown 0 hs ls

theorem unified_of_ne (path : String) {before after : String} (h : before ≠ after) :
    unified path before after = headerText path before after ++
      String.join ((hunks (splitLines before.toList) (splitLines after.toList)).map Hunk.text) := by
  rw [unified, if_neg h, headerText]

theorem headerText_append_ne_empty (path before after body : String) :
    headerText path before after ++ body ≠ "" := by
  intro h
  have hlen := congrArg String.length h
  simp [headerText] at hlen

/-- The hunks that are read from the text of those between two texts. -/
theorem readHunks_hunks (before after : String) :
    readHunks (String.join
        ((hunks (splitLines before.toList) (splitLines after.toList)).map Hunk.text)).toList =
      (hunks (splitLines before.toList) (splitLines after.toList)).map Hunk.shown := by
  refine readHunks_text fun h hh x hx => ?_
  rcases (patched_hunks _ _).mem_of_mem_lines hh hx with hmem | hmem
  · exact isLine_of_mem_splitLines _ _ hmem
  · exact isLine_of_mem_splitLines _ _ hmem

/-- A diff is empty if and only if the texts are the same. Otherwise, after its header, it shows
hunks in ascending order that do not overlap; applied to the text before they give the text after,
applied in reverse to the text after they give the text before. Their headers give the right places
and numbers of lines of every side that a hunk both begins and ends with; a side that the first or
last line of a hunk lacks is given by a mark, which may be wrong. -/
theorem unified_is_patch (path before after : String) :
    (unified path before after = "" ↔ before = after) ∧
      (before ≠ after → ∃ body : String,
        unified path before after = headerText path before after ++ body ∧
        (readHunks body.toList).Pairwise Hunk.EndsBefore ∧
        applyText body before = some after ∧
        revertText body after = some before ∧
        ∀ h ∈ readHunks body.toList, h.IsCounted) := by
  constructor
  · refine ⟨fun h => Decidable.byContradiction fun hne => ?_, fun h => if_pos h⟩
    rw [unified_of_ne path hne] at h
    exact headerText_append_ne_empty _ _ _ _ h
  intro hne
  have hpatched := patched_hunks (splitLines before.toList) (splitLines after.toList)
  refine ⟨_, unified_of_ne path hne, ?_⟩
  rw [applyText, revertText, readHunks_hunks, patch_map_shown, unpatch_map_shown,
    hpatched.patch_eq, hpatched.unpatch_eq, List.pairwise_map]
  refine ⟨hpatched.pairwise_endsBefore, ?_, ?_, ?_⟩
  · simp [flatten_splitLines]
  · simp [flatten_splitLines]
  · rw [List.forall_mem_map]
    exact fun h hh => (hpatched.fits hh).isCounted_shown

/-- A line that passes from one side of a kept line to the other leaves a mark behind that no longer
holds: the header counts one old line, and one new line from the second on, where the hunk has two
of each, from the first on. -/
theorem unified_header_miscounts :
    unified "p" "a\nb\n" "b\nb\n" =
        headerText "p" "a\nb\n" "b\nb\n" ++ "@@ -1 +2 @@\n-a\n b\n+b\n" ∧
      ∃ h, readHunks "@@ -1 +2 @@\n-a\n b\n+b\n".toList = [h] ∧ h.oldSpan = (0, 1) ∧
        h.old.length = 2 ∧ h.newSpan = (1, 2) ∧ h.new.length = 2 := by
  refine ⟨by decide +kernel, _, rfl, ?_⟩
  decide +kernel

end Codemod.Patch
