import Codemod.Cli.Style
import Codemod.Proofs.Patch.Unified
import Codemod.Proofs.Path

/-!
# The colors of a diff

Every line of a diff has a role, which the lines around it decide. The colors go by what a line
looks like on its own, and this can be something else: a removed line may look like a title, and a
kept line may end as a file mode does.

## Main definitions

* `Cli.Role` — what a line of a diff is there for, and `Cli.Role.style` — the style that goes with
  it.
* `Cli.diffLines` — the lines of a diff with their roles.
* `Cli.Role.mistakenFor?` — what a line is taken for by its look.

## Main results

* `Cli.lineStyle_eq` — the style of a line, by its role and its look.
* `Cli.colorizeDiff_eq` — a diff in colors, line by line.
-/

namespace Codemod.Cli

open Patch (Mark Line Hunk IsLine isTerminated splitLines)

/-! ## Roles -/

/-- What a line of a diff is there for. -/
inductive Role where
  /-- Names the file. -/
  | title
  /-- Tells the mode of a file that is created or deleted. -/
  | mode
  /-- Tells where a hunk is. -/
  | place
  /-- Shows a line of one or both of the texts. -/
  | line (m : Mark)
  /-- Tells that the line before it has no terminator. -/
  | notice
  deriving DecidableEq

namespace Role

def style : Role → Option Style
  | title => some .bold
  | mode => some .dimmed
  | place => some .cyan
  | line .removed => some .red
  | line .added => some .green
  | line .kept => none
  | notice => none

/-- The style of what a line is taken for by its look, if that is not its role. -/
def mistakenFor? : Role → String → Option Style
  | line .removed, text => if hasStart text "---" then some .bold else none
  | line .added, text => if hasStart text "+++" then some .bold else none
  | line .kept, text => if hasEnd text "file mode 100644" then some .dimmed else none
  | _, _ => none

/-- The texts that lines with a role can have, without the line break at their end. -/
def Begins : Role → List Char → Prop
  | title, t => ∃ s ∈ ["--- a/", "+++ b/", "diff --git a/"], s.toList <+: t
  | mode, t => t = "new file mode 100644".toList ∨ t = "deleted file mode 100644".toList
  | place, t => "@@".toList <+: t
  | line m, t => m.text.toList <+: t
  | notice, t => t = "\\ No newline at end of file".toList

end Role

/-- The style of a line is that of its role, unless it is mistaken. -/
theorem lineStyle_eq {role : Role} {t : List Char} (h : role.Begins t) :
    lineStyle (String.ofList t) =
      (role.mistakenFor? (String.ofList t)).or role.style := by
  cases role with
  | title =>
    obtain ⟨s, hs, rest, rfl⟩ := h
    simp only [List.mem_cons, List.not_mem_nil, or_false] at hs
    obtain rfl | rfl | rfl := hs <;> simp [lineStyle, hasStart, Role.mistakenFor?, Role.style]
  | mode => obtain rfl | rfl := h <;> decide +kernel
  | place =>
    obtain ⟨rest, rfl⟩ := h
    simp [lineStyle, hasStart, Role.mistakenFor?, Role.style]
  | line m =>
    obtain ⟨rest, rfl⟩ := h
    cases m <;> simp [lineStyle, hasStart, Role.mistakenFor?, Role.style, Mark.text] <;>
      split <;> rfl
  | notice =>
    obtain rfl := h
    decide +kernel

/-! ## Lines with their roles -/

/-- The lines that name the file and, if it is created or deleted, tell so. -/
def headerLines (path before after : String) : List (Role × Line) :=
  let announce (what : String) : List (Role × Line) :=
    [(.title, ("diff --git a/" ++ path ++ " b/" ++ path ++ "\n").toList),
      (.mode, (what ++ " file mode 100644\n").toList)]
  (if before = "" then announce "new" else if after = "" then announce "deleted" else []) ++
    [(.title, ("--- a/" ++ path ++ "\n").toList), (.title, ("+++ b/" ++ path ++ "\n").toList)]

/-- The lines that show a hunk. -/
def hunkLines (h : Hunk) : List (Role × Line) :=
  (.place, h.headerLine) ::
    h.lines.flatMap fun x => [.line x.1, .notice].zip (Hunk.shownLine x)

/-- The lines of a diff. -/
def diffLines (path before after : String) : List (Role × Line) :=
  if before = after then []
  else
    headerLines path before after ++
      (Patch.hunks (splitLines before.toList) (splitLines after.toList)).flatMap hunkLines

theorem map_snd_hunkLines (h : Hunk) : (hunkLines h).map Prod.snd = h.shownLines := by
  have hone : ∀ x : Mark × Line,
      ([Role.line x.1, .notice].zip (Hunk.shownLine x)).map Prod.snd = Hunk.shownLine x := by
    rintro ⟨m, l⟩
    rw [Hunk.shownLine]
    split <;> rfl
  simp [hunkLines, Hunk.shownLines, List.map_flatMap, hone]

theorem flatten_headerLines (path before after : String) :
    ((headerLines path before after).map Prod.snd).flatten =
      (Patch.headerText path before after).toList := by
  unfold headerLines Patch.headerText Patch.modeText
  split
  · simp
  · split <;> simp

/-- The lines of a diff make up its text. -/
theorem flatten_diffLines (path before after : String) :
    ((diffLines path before after).map Prod.snd).flatten =
      (Patch.unified path before after).toList := by
  unfold diffLines
  split
  next h => simp [Patch.unified, h]
  next h =>
    have hhunks : ∀ hs : List Hunk, ((hs.flatMap hunkLines).map Prod.snd).flatten =
        (String.join (hs.map Hunk.text)).toList := by
      intro hs
      induction hs with
      | nil => rfl
      | cons k hs ih =>
        simp [map_snd_hunkLines, Hunk.flatten_shownLines, ih]
    rw [Patch.unified_of_ne path h, List.map_append, List.flatten_append, flatten_headerLines,
      hhunks, String.toList_append]

/-! ## Rows of the terminal -/

/-- A line without the line break at its end. -/
def content (l : Line) : List Char :=
  if l.getLast? = some '\n' then l.dropLast else l

@[simp] theorem content_append_newline (t : List Char) : content (t ++ ['\n']) = t := by
  simp [content]

theorem content_of_notMem {l : Line} (h : '\n' ∉ l) : content l = l := by
  rw [content, if_neg]
  exact fun hlast => h (List.mem_of_getLast? hlast)

/-- A text in a style, if it has one. -/
def styled (style : Option Style) (text : String) : String :=
  match style with
  | some s => s.apply text
  | none => text

/-- A line in a style. The line break at its end has none. -/
def paint (style : Option Style) (l : Line) : String :=
  styled style (String.ofList (content l)) ++ if l.getLast? = some '\n' then "\n" else ""

/-- The style that a line has by its look. -/
def Role.seenStyle (role : Role) (l : Line) : Option Style :=
  (role.mistakenFor? (String.ofList (content l))).or role.style

/-- Lines as they are seen. One that ends with a lone `\r` runs on in the next, and what is seen has
the role of the first of them. -/
def rows : List (Role × Line) → List (Role × Line)
  | [] => []
  | (role, l) :: rest =>
    if l.getLast? = some '\n' then (role, l) :: rows rest
    else
      match rows rest with
      | [] => [(role, l)]
      | (_, next) :: more => (role, l ++ next) :: more

theorem rows_eq_self {lines : List (Role × Line)}
    (h : ∀ x ∈ lines, x.2.getLast? = some '\n') : rows lines = lines := by
  induction lines with
  | nil => rfl
  | cons x rest ih =>
    rw [List.forall_mem_cons] at h
    rw [rows, if_pos h.1, ih h.2]

/-- A line of a diff: it has one line break at most, at its end, and begins as its role says. -/
structure IsDiffLine (x : Role × Line) : Prop where
  newline_notMem : '\n' ∉ x.2.dropLast
  begins : x.1.Begins (content x.2)
  getLast? : (∀ m, x.1 ≠ .line m) → x.2.getLast? = some '\n'

/-- Rows end with a line break, which the last may lack, and have none before it. -/
inductive IsRows : List (Role × Line) → Prop
  | nil : IsRows []
  | last {role : Role} {t : List Char} : '\n' ∉ t → role.Begins t → IsRows [(role, t)]
  | cons {role : Role} {t : List Char} {rest : List (Role × Line)} : '\n' ∉ t → role.Begins t →
      IsRows rest → IsRows ((role, t ++ ['\n']) :: rest)

theorem IsDiffLine.cases {role : Role} {l : Line} (h : IsDiffLine (role, l)) :
    (∃ t, l = t ++ ['\n'] ∧ '\n' ∉ t ∧ role.Begins t) ∨
      ∃ m, role = .line m ∧ '\n' ∉ l ∧ m.text.toList <+: l := by
  obtain ⟨hnew, hbegins, hlast⟩ := h
  by_cases hend : l.getLast? = some '\n'
  · obtain ⟨t, rfl⟩ := List.getLast?_eq_some_iff.mp hend
    exact .inl ⟨t, rfl, by simpa using hnew, by simpa using hbegins⟩
  · obtain ⟨m, rfl⟩ : ∃ m, role = .line m := by
      by_contra hnone
      exact hend (hlast (by simpa using hnone))
    refine .inr ⟨m, rfl, ?_, ?_⟩
    · rcases List.eq_nil_or_concat l with rfl | ⟨t, c, rfl⟩
      · simp
      · rw [List.concat_eq_append] at hend hnew ⊢
        simp only [List.getLast?_concat, List.dropLast_concat] at hend hnew
        grind
    · simpa [content, hend, Role.Begins] using hbegins

theorem flatten_rows (lines : List (Role × Line)) :
    ((rows lines).map Prod.snd).flatten = (lines.map Prod.snd).flatten := by
  fun_induction rows lines with
  | case1 => rfl
  | case2 role l rest hend ih => simp [ih]
  | case3 role l rest hend hrows ih => simp [← ih, hrows]
  | case4 role l rest hend r next more hrows ih => simp [← ih, hrows]

theorem isRows_rows {lines : List (Role × Line)} (h : ∀ x ∈ lines, IsDiffLine x) :
    IsRows (rows lines) := by
  induction lines with
  | nil => exact .nil
  | cons x rest ih =>
    obtain ⟨role, l⟩ := x
    rw [List.forall_mem_cons] at h
    obtain ⟨t, rfl, hnew, hbegins⟩ | ⟨m, rfl, hnew, hbegins⟩ := h.1.cases
    · rw [rows, if_pos (by simp)]
      exact .cons hnew hbegins (ih h.2)
    · -- the line runs on in the first row of the others
      have hend : l.getLast? ≠ some '\n' := fun hlast => hnew (List.mem_of_getLast? hlast)
      have hrest := ih h.2
      rw [rows, if_neg hend]
      generalize rows rest = more at hrest
      cases hrest with
      | nil => exact .last hnew hbegins
      | last hnew' _ =>
        exact .last (by simp [hnew, hnew']) (hbegins.trans (List.prefix_append _ _))
      | cons hnew' _ hmore =>
        dsimp only
        rw [← List.append_assoc]
        exact .cons (by simp [hnew, hnew']) (hbegins.trans (List.prefix_append _ _)) hmore

theorem Role.Begins.ne_nil {role : Role} {t : List Char} (h : role.Begins t) : t ≠ [] := by
  rintro rfl
  cases role with
  | line m => cases m <;> simp [Begins, Mark.text] at h
  | _ => simp [Begins] at h

theorem colorizeLine_eq {role : Role} {t : List Char} (h : role.Begins t) :
    colorizeLine (String.ofList t) =
      styled ((role.mistakenFor? (String.ofList t)).or role.style) (String.ofList t) := by
  rw [← lineStyle_eq h]
  rfl

/-- The first line of several is colored by itself. -/
theorem colorizeLines_pieces {t : List Char} (h : '\n' ∉ t) (rest : List Char) :
    colorizeLines (pieces (String.ofList (t ++ '\n' :: rest)) "\n") =
      colorizeLine (String.ofList t) ++ "\n" ++
        colorizeLines (pieces (String.ofList rest) "\n") := by
  have hsplit : pieces (String.ofList (t ++ '\n' :: rest)) "\n" =
      String.ofList t :: pieces (String.ofList rest) "\n" := by
    simp [pieces, Text.splitOn_append_cons, Text.splitOn_of_notMem h]
  have hne : pieces (String.ofList rest) "\n" ≠ [] := by
    simp [pieces, Text.splitOn, Text.splitFrom_ne_nil]
  obtain ⟨next, more, hmore⟩ := List.exists_cons_of_ne_nil hne
  rw [hsplit, hmore, colorizeLines]
  simp

/-- Rows are colored one by one. -/
theorem colorizeLines_rows {rs : List (Role × Line)} (h : IsRows rs) :
    colorizeLines (pieces (String.ofList (rs.map Prod.snd).flatten) "\n") =
      String.join (rs.map fun x => paint (x.1.seenStyle x.2) x.2) := by
  induction h with
  | nil => rfl
  | @last role t hnew hbegins =>
    have hpieces : pieces (String.ofList t) "\n" = [String.ofList t] := by
      simp [pieces, Text.splitOn_of_notMem hnew]
    have hend : t.getLast? ≠ some '\n' := fun hlast => hnew (List.mem_of_getLast? hlast)
    simp [hpieces, colorizeLines, hbegins.ne_nil, colorizeLine_eq hbegins, paint, Role.seenStyle,
      content_of_notMem hnew, hend]
  | @cons role t rest hnew hbegins _ ih =>
    have hflat : (((role, t ++ ['\n']) :: rest).map Prod.snd).flatten =
        t ++ '\n' :: (rest.map Prod.snd).flatten := by
      simp
    have hrow : paint (role.seenStyle (t ++ ['\n'])) (t ++ ['\n']) =
        colorizeLine (String.ofList t) ++ "\n" := by
      simp [paint, Role.seenStyle, colorizeLine_eq hbegins]
    rw [hflat, colorizeLines_pieces hnew, ih, List.map_cons, String.join_cons, hrow]

/-! ## The lines of a diff -/

theorem IsDiffLine.append_newline {role : Role} {t : List Char} (hnew : '\n' ∉ t)
    (hbegins : role.Begins t) : IsDiffLine (role, t ++ ['\n']) :=
  ⟨by simpa using hnew, by simpa using hbegins, fun _ => by simp⟩

theorem isDiffLine_headerLines {path : String} (hpath : '\n' ∉ path.toList)
    (before after : String) : ∀ x ∈ headerLines path before after, IsDiffLine x := by
  have htitle : ∀ front ∈ ["--- a/", "+++ b/", "diff --git a/"], ∀ rest : String,
      '\n' ∉ rest.toList → IsDiffLine (.title, (front ++ rest ++ "\n").toList) := by
    intro front hfront rest hrest
    have hnew : '\n' ∉ (front ++ rest).toList := by
      rw [String.toList_append, List.mem_append, not_or]
      refine ⟨?_, hrest⟩
      revert front
      decide
    rw [String.toList_append]
    exact .append_newline hnew ⟨front, hfront, by simp⟩
  have hmode : IsDiffLine (.mode, ("new" ++ " file mode 100644\n").toList) ∧
      IsDiffLine (.mode, ("deleted" ++ " file mode 100644\n").toList) :=
    ⟨.append_newline (t := "new file mode 100644".toList) (by decide) (.inl rfl),
      .append_newline (t := "deleted file mode 100644".toList) (by decide) (.inr rfl)⟩
  have hgit : IsDiffLine (.title, ("diff --git a/" ++ path ++ " b/" ++ path ++ "\n").toList) := by
    have h := htitle "diff --git a/" (by simp) (path ++ " b/" ++ path) (by simp [hpath])
    simpa [String.append_assoc] using h
  have hplain : ∀ x ∈ [(Role.title, ("--- a/" ++ path ++ "\n").toList),
      (.title, ("+++ b/" ++ path ++ "\n").toList)], IsDiffLine x :=
    List.forall_mem_cons.mpr ⟨htitle _ (by simp) path hpath,
      List.forall_mem_singleton.mpr (htitle _ (by simp) path hpath)⟩
  unfold headerLines
  refine List.forall_mem_append.mpr ⟨?_, hplain⟩
  split
  · exact List.forall_mem_cons.mpr ⟨hgit, List.forall_mem_singleton.mpr hmode.1⟩
  · split
    · exact List.forall_mem_cons.mpr ⟨hgit, List.forall_mem_singleton.mpr hmode.2⟩
    · simp

theorem role_headerLines {path before after : String} :
    ∀ role ∈ (headerLines path before after).map Prod.fst, ∀ m, role ≠ .line m := by
  unfold headerLines
  split
  · simp
  · split <;> simp

theorem newline_notMem_dropLast {l : Line} (h : IsLine l) : '\n' ∉ l.dropLast := by
  induction l with
  | nil => simp
  | cons c s ih =>
    obtain hl | hl | hl | ⟨_, _, ⟨⟩, hn, -, rfl | hs⟩ := h.cases
    · simp [hl]
    · simp [hl]
    · simp [hl]
    · simp
    · rw [List.dropLast_cons_of_ne_nil hs.ne_nil, List.mem_cons, not_or]
      exact ⟨Ne.symm hn, ih hs⟩

/-- The lines that show one line of a hunk. -/
theorem isDiffLine_shownLine (m : Mark) {l : Line} (h : IsLine l) :
    ∀ x ∈ [Role.line m, .notice].zip (Hunk.shownLine (m, l)), IsDiffLine x := by
  have hshown := Patch.isShown_shownLine (m := m) h
  obtain ⟨c, hc, -, -, -, hn, -⟩ := m.ofChar?_text
  rw [Hunk.shownLine, hc] at hshown ⊢
  split
  next hterminated =>
    rw [if_pos hterminated, List.forall_mem_singleton] at hshown
    rw [List.zip_cons_cons, List.zip_nil_right, List.forall_mem_singleton]
    refine ⟨newline_notMem_dropLast hshown.1, ?_, by simp⟩
    have hcontent : [c] <+: content (c :: l) := by
      rw [content]
      split
      · rw [List.dropLast_cons_of_ne_nil h.ne_nil]
        exact ⟨_, rfl⟩
      · exact ⟨_, rfl⟩
    show m.text.toList <+: content (c :: l)
    rwa [hc]
  next hterminated =>
    rw [if_neg hterminated, List.forall_mem_cons] at hshown
    have hnew := newline_notMem_dropLast hshown.1.1
    rw [List.dropLast_concat] at hnew
    refine List.forall_mem_cons.mpr ⟨.append_newline hnew ?_, List.forall_mem_singleton.mpr ?_⟩
    · show m.text.toList <+: [c] ++ l
      rw [hc]
      exact List.prefix_append _ _
    · exact .append_newline (t := "\\ No newline at end of file".toList) (by decide) rfl

theorem isDiffLine_headerLine (h : Hunk) : IsDiffLine (.place, h.headerLine) := by
  have hnew := newline_notMem_dropLast (Patch.isShown_headerLine h).1
  have hheader : h.headerLine = ("@@ -" ++ Patch.spanText h.oldSpan ++ " +" ++
      Patch.spanText h.newSpan ++ " @@").toList ++ ['\n'] := by
    simp [Hunk.headerLine]
  rw [hheader] at hnew ⊢
  rw [List.dropLast_concat] at hnew
  exact .append_newline hnew (by simp [Role.Begins])

/-- What is true of the header, of the places of hunks and of the lines that show a line of one of
the texts, is true of all lines of a diff. -/
theorem forall_diffLines {P : Role × Line → Prop} {path before after : String}
    (hheader : ∀ x ∈ headerLines path before after, P x)
    (hplace : ∀ h : Hunk, P (.place, h.headerLine))
    (hshown : ∀ m, ∀ l ∈ splitLines before.toList ++ splitLines after.toList,
      ∀ x ∈ [Role.line m, .notice].zip (Hunk.shownLine (m, l)), P x) :
    ∀ x ∈ diffLines path before after, P x := by
  unfold diffLines
  split
  · simp
  next =>
    refine List.forall_mem_append.mpr ⟨hheader, ?_⟩
    intro x hx
    obtain ⟨h, hh, hx⟩ := List.mem_flatMap.mp hx
    rcases List.mem_cons.mp hx with rfl | hx
    · exact hplace h
    · obtain ⟨⟨m, l⟩, hl, hx⟩ := List.mem_flatMap.mp hx
      have hmem := (Patch.patched_hunks _ _).mem_of_mem_lines hh hl
      exact hshown m l (List.mem_append.mpr hmem) x hx

theorem isDiffLine_diffLines {path : String} (hpath : '\n' ∉ path.toList)
    (before after : String) : ∀ x ∈ diffLines path before after, IsDiffLine x := by
  refine forall_diffLines (isDiffLine_headerLines hpath before after) isDiffLine_headerLine ?_
  intro m l hl
  refine isDiffLine_shownLine m ?_
  rcases List.mem_append.mp hl with hl | hl
  · exact Patch.isLine_of_mem_splitLines _ l hl
  · exact Patch.isLine_of_mem_splitLines _ l hl

/-- The texts have no line that ends with a lone `\r`. -/
def NoLoneReturn (before after : String) : Prop :=
  ∀ l ∈ splitLines before.toList ++ splitLines after.toList, l.getLast? ≠ some '\r'

theorem getLast?_shownLine (m : Mark) {l : Line} (h : l.getLast? ≠ some '\r') :
    ∀ x ∈ [Role.line m, .notice].zip (Hunk.shownLine (m, l)), x.2.getLast? = some '\n' := by
  rw [Hunk.shownLine]
  split
  next hterminated =>
    rw [List.zip_cons_cons, List.zip_nil_right, List.forall_mem_singleton]
    rw [isTerminated] at hterminated
    split at hterminated
    next c hc =>
      have hend : c = '\n' := by simp_all
      rw [List.getLast?_append, hc, hend, Option.some_or]
    next => cases hterminated
  next =>
    refine List.forall_mem_cons.mpr ⟨by simp, List.forall_mem_singleton.mpr ?_⟩
    rfl

theorem rows_diffLines {path before after : String} (hpath : '\n' ∉ path.toList)
    (h : NoLoneReturn before after) :
    rows (diffLines path before after) = diffLines path before after := by
  refine rows_eq_self (forall_diffLines ?_ ?_ fun m l hl => getLast?_shownLine m (h l hl))
  · intro x hx
    exact (isDiffLine_headerLines hpath before after x hx).getLast?
      (role_headerLines _ (List.mem_map_of_mem hx))
  · exact fun k => (isDiffLine_headerLine k).getLast? (by simp)

/-- A diff in colors, row by row. -/
theorem colorizeDiff_eq {path : String} (hpath : '\n' ∉ path.toList) (before after : String) :
    colorizeDiff (Patch.unified path before after) true =
      String.join ((rows (diffLines path before after)).map fun x =>
        paint (x.1.seenStyle x.2) x.2) := by
  have hrows := isRows_rows (isDiffLine_diffLines hpath before after)
  have htext : String.ofList (((rows (diffLines path before after)).map Prod.snd).flatten) =
      Patch.unified path before after := by
    rw [flatten_rows, flatten_diffLines, String.ofList_toList]
  rw [← colorizeLines_rows hrows, htext]
  rfl

/-- Lines in the styles of their roles. -/
def inRoles (lines : List (Role × Line)) : String :=
  String.join (lines.map fun x => paint x.1.style x.2)

/-- A diff in colors shows every row by its look, which is that of its role but for removed lines
that look like `---`, added lines that look like `+++` and kept lines that end like a file mode.
Rows are lines if no line ends with a lone `\r`; if besides no line is mistaken, then every line is
in the style of its role. -/
theorem colors_go_by_look (path before after : String) (hpath : '\n' ∉ path.toList) :
    ((diffLines path before after).map Prod.snd).flatten =
        (Patch.unified path before after).toList ∧
      colorizeDiff (Patch.unified path before after) true =
        String.join ((rows (diffLines path before after)).map fun x =>
          paint (x.1.seenStyle x.2) x.2) ∧
      (NoLoneReturn before after →
        rows (diffLines path before after) = diffLines path before after ∧
        ((∀ x ∈ diffLines path before after,
            x.1.mistakenFor? (String.ofList (content x.2)) = none) →
          colorizeDiff (Patch.unified path before after) true =
            inRoles (diffLines path before after))) := by
  have hcolors := colorizeDiff_eq hpath before after
  refine ⟨flatten_diffLines path before after, hcolors, fun hreturn => ?_⟩
  have hrows := rows_diffLines hpath hreturn
  refine ⟨hrows, fun hnone => ?_⟩
  rw [hcolors, hrows, inRoles]
  refine congrArg String.join (List.map_congr_left fun x hx => ?_)
  rw [Role.seenStyle, hnone x hx, Option.none_or]

/-- The lines of a plain diff are in the styles of their roles. -/
theorem colors_go_by_look_plain :
    colorizeDiff (Patch.unified "p" "x\nz\n" "y\nz\n") true =
        inRoles (diffLines "p" "x\nz\n" "y\nz\n") ∧
      inRoles (diffLines "p" "x\nz\n" "y\nz\n") =
        "\x1b[1m--- a/p\x1b[0m\n\x1b[1m+++ b/p\x1b[0m\n\x1b[36m@@ -1,2 +1,2 @@\x1b[39m\n" ++
          "\x1b[31m-x\x1b[39m\n\x1b[32m+y\x1b[39m\n z\n" := by
  have hreturn : NoLoneReturn "x\nz\n" "y\nz\n" := by
    unfold NoLoneReturn
    decide +kernel
  obtain ⟨-, -, hlook⟩ := colors_go_by_look "p" "x\nz\n" "y\nz\n" (by decide)
  exact ⟨(hlook hreturn).2 (by decide +kernel), by decide +kernel⟩

/-- A removed and an added line are taken for titles, and a kept line for a file mode. -/
theorem colors_mistake_lines :
    (diffLines "p" "-- x\nfile mode 100644\n" "++ y\nfile mode 100644\n").drop 3 =
        [(.line .removed, "--- x\n".toList), (.line .added, "+++ y\n".toList),
          (.line .kept, " file mode 100644\n".toList)] ∧
      colorizeDiff (Patch.unified "p" "-- x\nfile mode 100644\n" "++ y\nfile mode 100644\n") true =
        "\x1b[1m--- a/p\x1b[0m\n\x1b[1m+++ b/p\x1b[0m\n\x1b[36m@@ -1,2 +1,2 @@\x1b[39m\n" ++
          "\x1b[1m--- x\x1b[0m\n\x1b[1m+++ y\x1b[0m\n\x1b[2m file mode 100644\x1b[0m\n" ∧
      colorizeDiff (Patch.unified "p" "-- x\nfile mode 100644\n" "++ y\nfile mode 100644\n") true ≠
        inRoles (diffLines "p" "-- x\nfile mode 100644\n" "++ y\nfile mode 100644\n") := by
  decide +kernel

end Codemod.Cli
