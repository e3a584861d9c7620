import Codemod.Proofs.Rule.Plugins
import Codemod.Proofs.Source.Statements
import Mathlib.Data.List.Nodup

/-!
# Imports that are renamed

A rule replaces the name of a module wherever a source imports from it. The names stand in the
source one after the other, so that all of them are replaced as if at once, however many bytes the
one name and the other have. Only where the imports of a source cannot be told the rule does not
come to an end.

## Main results

* `Rule.backToFront_eq_reverse` — ranges that stand one after the other, sorted.
* `Rule.importPlugin_substitutes` — what becomes of a source.
* `Rule.importPlugin_stops_in_open_string` — a source at which the rule does not come to an end.
-/

namespace Codemod

namespace Rule

/-- To sort ranges by where they begin is to reverse them if they stand one after the other. -/
theorem backToFront_eq_reverse {spans : List Source.Span}
    (h : spans.Pairwise fun r r' => r.start < r'.start) : backToFront spans = spans.reverse := by
  have hsorted : (backToFront spans).Pairwise fun r r' => decide (r'.start ≤ r.start) = true :=
    List.pairwise_mergeSort (fun a b c => by simp only [decide_eq_true_eq]; omega)
      (fun a b => by simp only [Bool.or_eq_true, decide_eq_true_eq]; omega) spans
  have hreversed : spans.reverse.Pairwise fun r r' => decide (r'.start ≤ r.start) = true :=
    List.pairwise_reverse.mpr (h.imp fun hlt => decide_eq_true (Nat.le_of_lt hlt))
  have hperm : (backToFront spans).Perm spans.reverse :=
    (List.mergeSort_perm spans _).trans (List.reverse_perm spans).symm
  refine hperm.eq_of_pairwise (fun r r' hr hr' hle hle' => ?_) hsorted hreversed
  -- no two of the ranges begin at the same byte
  have hstarts : (spans.map (·.start)).Nodup :=
    List.pairwise_map.mpr (h.imp Nat.ne_of_lt)
  have hmem : r ∈ spans := List.mem_reverse.mp (hperm.mem_iff.mp hr)
  have hmem' : r' ∈ spans := List.mem_reverse.mp hr'
  simp only [decide_eq_true_eq] at hle hle'
  exact List.inj_on_of_nodup_map hstarts hmem hmem' (Nat.le_antisymm hle' hle)

variable (source target : String) {u : SourceUnit} {imports : List Source.Import}

theorem spansOf_eq_nil_iff :
    spansOf source imports = [] ↔ ∀ i ∈ imports, i.moduleName ≠ source := by
  simp [spansOf]

/-- The edits succeed, and make the source with all names replaced. -/
theorem exists_foldlM_spansOf (h : Source.ImportsStand u.text.toList imports) :
    ∃ next, (backToFront (spansOf source imports)).foldlM
        (fun (u : SourceUnit) r => u.replace r target) u = .ok next ∧
      next.path = u.path ∧
      Bytes.Substituted (Bytes.ofText source) (Bytes.ofText target) 0 (spansOf source imports)
        (Bytes.ofText u.text) (Bytes.ofText next.text) := by
  have hsome := h.sublist (List.filter_sublist (p := fun i => decide (i.moduleName = source)))
  have hold : ∀ x ∈ (imports.filter (·.moduleName = source)).map Source.Import.excerpt,
      x.text = source.toList := by
    intro x hx
    obtain ⟨i, hi, rfl⟩ := List.mem_map.mp hx
    exact congrArg String.toList (by simpa using (List.mem_filter.mp hi).2)
  have hspans : ((imports.filter (·.moduleName = source)).map Source.Import.excerpt).map (·.span) =
      spansOf source imports := by
    rw [List.map_map, spansOf]
    rfl
  obtain ⟨next, s, hedits, hpath, htext, hsubstituted⟩ :=
    SourceUnit.foldlM_replace hsome.occur hold target Source.byteSize_nil rfl
  rw [hspans] at hedits hsubstituted
  have hfront : (spansOf source imports).Pairwise fun r r' => r.start < r'.start := by
    rw [spansOf, List.pairwise_map]
    refine hsome.apart.imp_of_mem fun {i j} hi _ hlt => ?_
    have := (hsome.names i hi).start_le_stop
    omega
  rw [backToFront_eq_reverse hfront]
  refine ⟨next, hedits, hpath, ?_⟩
  rw [List.nil_append] at htext
  rwa [String.ofList_toList, ← htext, String.ofList_toList] at hsubstituted

/-- A rule that renames a module in a source comes to an end unless an import of the source has an
incomplete string that does not begin and end with characters of one byte each, and never makes an
edit that is refused. It leaves the source unchanged if and only if none of its imports is from that
module. Otherwise it replaces the bytes of the name at every import from the module, where they
stand in the source at first, and keeps all other bytes. -/
theorem importPlugin_substitutes (hfits : u.tree.Fits u.text.toList) (path : String) :
    ((∃ cut, renameModule source target u = .error cut) ↔
      ∃ n ∈ u.tree.children, n.kind = "import_statement" ∧ n.IsCut u.text.toList) ∧
    (∀ e, renameModule source target u ≠ .ok (.error e)) ∧
    ∀ imports, u.imports = .ok imports →
      (∀ reasons, importPlugin source target u path ≠ .done (.error reasons)) ∧
      (importPlugin source target u path = .done (.ok .unchanged) ↔
        ∀ i ∈ imports, i.moduleName ≠ source) ∧
      ((∃ i ∈ imports, i.moduleName = source) →
        ∃ next, importPlugin source target u path = .done (.ok (.replace next)) ∧
          next.path = u.path ∧
          Bytes.Substituted (Bytes.ofText source) (Bytes.ofText target) 0
            ((imports.filter (·.moduleName = source)).map (·.moduleSpan))
            (Bytes.ofText u.text) (Bytes.ofText next.text)) := by
  have hstops : (∃ cut, u.imports = .error cut) ↔ _ := Source.imports_eq_error_iff hfits
  rw [← hstops]
  cases himports : u.imports with
  | error cut =>
    rw [renameModule_eq_error source target himports]
    exact ⟨iff_of_true ⟨cut, rfl⟩ ⟨cut, rfl⟩, by simp, by simp⟩
  | ok imports =>
    obtain ⟨next, hedits, hpath, hsubstituted⟩ :=
      exists_foldlM_spansOf source target (Source.importsStand_of_fits hfits himports)
    have hrenamed := renameModule_eq_of_imports source target himports
    rw [hedits] at hrenamed
    by_cases hnone : ∀ i ∈ imports, i.moduleName ≠ source
    · rw [(spansOf_eq_nil_iff source).mpr hnone, List.isEmpty_nil, if_pos rfl] at hrenamed
      have hplugin : importPlugin source target u path = .done (.ok .unchanged) := by
        rw [importPlugin, hrenamed]
      rw [hrenamed, hplugin]
      refine ⟨by simp, by simp, ?_⟩
      rintro _ ⟨⟩
      refine ⟨by simp, iff_of_true rfl hnone, ?_⟩
      rintro ⟨i, hi, hname⟩
      exact absurd hname (hnone i hi)
    · have hspans : ¬ (spansOf source imports).isEmpty = true := by
        rwa [List.isEmpty_iff, spansOf_eq_nil_iff]
      rw [if_neg hspans] at hrenamed
      have hplugin : importPlugin source target u path = .done (.ok (.replace next)) := by
        rw [importPlugin, hrenamed]
        rfl
      rw [hrenamed, hplugin]
      refine ⟨by simp [Except.map], by simp [Except.map], ?_⟩
      rintro _ ⟨⟩
      exact ⟨by simp, iff_of_false (by simp) hnone, fun _ => ⟨next, rfl, hpath, hsubstituted⟩⟩

end Rule

namespace Sample

/-- A source with an error, characters of several bytes and two imports from the same module. -/
def imports : SourceUnit :=
  .parse .standard "a.ts" "/* ä */ import x from 'ä'\nimport \"b\";import \"ä\" ("

end Sample

/-- Both imports are renamed, and the comment and the other import stay. -/
theorem Rule.importPlugin_substitutes_imports :
    Sample.imports.tree.Fits Sample.imports.text.toList ∧
      ∃ next, importPlugin "ä" "abc" Sample.imports "a.ts" = .done (.ok (.replace next)) ∧
        next.text = "/* ä */ import x from 'abc'\nimport \"b\";import \"abc\" (" ∧
        Bytes.Substituted (Bytes.ofText "ä") (Bytes.ofText "abc") 0 [⟨24, 26⟩, ⟨47, 49⟩]
          (Bytes.ofText Sample.imports.text) (Bytes.ofText next.text) := by
  have hfits : Sample.imports.tree.Fits Sample.imports.text.toList :=
    Source.Languages.sound_standard.of "a.ts" none _
  have himports : Sample.imports.imports = .ok [⟨"ä", ⟨24, 26⟩, ⟨9, 27⟩, []⟩,
      ⟨"b", ⟨36, 37⟩, ⟨28, 39⟩, []⟩, ⟨"ä", ⟨47, 49⟩, ⟨39, 50⟩, []⟩] := by
    decide +kernel
  obtain ⟨next, hplugin, -, hsubstituted⟩ :=
    ((importPlugin_substitutes "ä" "abc" hfits "a.ts").2.2 _ himports).2.2 (by decide)
  refine ⟨hfits, next, hplugin, ?_, hsubstituted⟩
  have hspans : backToFront [⟨24, 26⟩, ⟨47, 49⟩] = [⟨47, 49⟩, ⟨24, 26⟩] :=
    backToFront_eq_reverse (by decide)
  have htext : ([(⟨47, 49⟩ : Source.Span), ⟨24, 26⟩].foldlM
      (fun (u : SourceUnit) r => u.replace r "abc") Sample.imports).map (·.text) =
        .ok "/* ä */ import x from 'abc'\nimport \"b\";import \"abc\" (" := by
    decide +kernel
  have hrenamed := renameModule_eq_of_imports "ä" "abc" himports
  rw [show spansOf "ä" _ = [⟨24, 26⟩, ⟨47, 49⟩] by decide, hspans, if_neg (by simp)] at hrenamed
  rw [importPlugin, hrenamed] at hplugin
  cases hedits : [(⟨47, 49⟩ : Source.Span), ⟨24, 26⟩].foldlM
      (fun (u : SourceUnit) r => u.replace r "abc") Sample.imports with
  | error e =>
    rw [hedits] at htext
    cases htext
  | ok edited =>
    rw [hedits] at htext hplugin
    cases hplugin
    exact Except.ok.inj htext

/-- A source whose parser can be trusted, at which renaming does not come to an end, although
nothing in it is to be renamed. -/
theorem Rule.importPlugin_stops_in_open_string :
    Source.Languages.standard.Sound ∧
      renameModule "x" "y" (.parse .standard "a.ts" "import a from \"é\n;\n") =
        .error ⟨⟨15, 16⟩⟩ := by
  refine ⟨Source.Languages.sound_standard, ?_⟩
  have himports : (SourceUnit.parse .standard "a.ts" "import a from \"é\n;\n").imports =
      .error ⟨⟨15, 16⟩⟩ := by
    decide +kernel
  exact renameModule_eq_error "x" "y" himports

end Codemod
