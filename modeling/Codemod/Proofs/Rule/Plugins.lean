import Codemod.Proofs.Markup.Elements
import Codemod.Proofs.Source.Edits
import Codemod.Proofs.Source.Nodes
import Codemod.Proofs.Text.Lines
import Codemod.Proofs.Updater
import Codemod.Rule.Compile

/-!
# What the plugins of rules do

Rules are compiled to plugins, in their order and apart for each kind of document. None of these
plugins edits the project. A rule that deletes files looks at paths only, and no other rule deletes
a document. Nor is a document left without any text by one that does not delete it, so that an
updater gives back nothing at all for a document that has text if and only if a rule deletes it.

## Main definitions

* `Rule.plugin?` — the plugin of one rule.
* `Rule.deletes` — the paths that a rule deletes.
* `Plugin.DeletesBy` — what a plugin may do to the text of a document.
* `Updater.Follows` — updaters with the plugins of rules.

## Main results

* `RuleSet.plugins_compile` — the plugins of compiled rules.
* `Rule.deletesBy_plugin` — what the plugin of each rule may do.
* `Updater.Follows.update_eq_empty_iff` — when nothing is left of a document.
-/

namespace Codemod

variable {engine : Pattern.Engine}

/-! ## Compiling -/

namespace Rule

/-- The plugin that a rule becomes for documents of one kind, if it is about them. -/
def plugin? (engine : Pattern.Engine) : (k : Kind) → Rule → Option (Plugin k.Node)
  | .code, renameImport source target => some (importPlugin source target)
  | .markup, renameAttribute source target => some (attributePlugin source target)
  | .json, jsonSet file pointer value => some (setPlugin file pointer value)
  | .text, replaceText none find new => some (replacePlugin none find new)
  | .text, replaceText (some pattern) find new =>
    (engine.compile pattern).toOption.map fun covers => replacePlugin (some covers) find new
  | _, deleteFiles pattern => (engine.compile pattern).toOption.map deletePlugin
  | _, _ => none

/-- Whether the rule deletes the file at a path. -/
def deletes (engine : Pattern.Engine) (path : String) : Rule → Bool
  | deleteFiles pattern => (engine.compile pattern).toOption.any (· path)
  | _ => false

end Rule

namespace RuleSet

/-- A rule adds its plugin to those of every kind. -/
theorem plugins_add {s s' : RuleSet} {index : Nat} {rule : Rule}
    (h : s.add engine index rule = .ok s') (k : Kind) :
    s'.plugins k = s.plugins k ++ (rule.plugin? engine k).toList := by
  cases rule with
  | renameImport source target =>
    cases h
    cases k <;> simp [plugins, Rule.plugin?]
  | jsonSet file pointer value =>
    rw [add] at h
    split at h
    · cases h
      cases k <;> simp [plugins, Rule.plugin?]
    · cases h
  | replaceText pattern find new =>
    cases pattern with
    | none =>
      cases h
      cases k <;> simp [plugins, Rule.plugin?]
    | some pattern =>
      rw [add, Rule.compilePattern] at h
      cases hp : engine.compile pattern with
      | error e => simp [hp, bind, Except.bind] at h
      | ok p =>
        rw [hp] at h
        cases h
        cases k <;> simp [plugins, Rule.plugin?, hp, Except.toOption]
  | renameAttribute source target =>
    cases h
    cases k <;> simp [plugins, Rule.plugin?]
  | deleteFiles pattern =>
    rw [add, Rule.compilePattern] at h
    cases hp : engine.compile pattern with
    | error e => simp [hp, bind, Except.bind] at h
    | ok p =>
      rw [hp] at h
      cases h
      cases k <;> simp [plugins, Rule.plugin?, hp, Except.toOption]

theorem plugins_addAll {s s' : RuleSet} {index : Nat} {rules : List Rule}
    (h : s.addAll engine index rules = .ok s') (k : Kind) :
    s'.plugins k = s.plugins k ++ rules.filterMap (Rule.plugin? engine k) := by
  induction rules generalizing s index with
  | nil =>
    cases h
    simp
  | cons rule rest ih =>
    rw [addAll] at h
    cases hadd : s.add engine index rule with
    | error e => simp [hadd, bind, Except.bind] at h
    | ok t =>
      rw [hadd] at h
      rw [ih h, plugins_add hadd, List.append_assoc, List.filterMap_cons]
      cases rule.plugin? engine k <;> rfl

/-- For every kind of document, the plugins are those of the rules about it, in their order. -/
theorem plugins_compile {rules : List Rule} {s : RuleSet} (h : compile engine rules = .ok s)
    (k : Kind) : s.plugins k = rules.filterMap (Rule.plugin? engine k) := by
  rw [plugins_addAll h k]
  cases k <;> rfl

end RuleSet

/-! ## Texts that stay -/

/-- The plugin asks nothing of the project, and deletes documents as `deletes` tells by their paths.
It may replace others, but by one that is written without any text only if there was none before. -/
structure Plugin.DeletesBy {k : Kind} (p : Plugin k.Node) (deletes : String → Bool) : Prop where
  answers : ∀ node path, ∃ r, p node path = .done r
  delete_iff : ∀ node path, p node path = .done (.ok .delete) ↔ deletes path = true
  replace : ∀ node path next, p node path = .done (.ok (.replace next)) →
    ∀ layout : k.Layout, Format.renderWith layout next = "" → Format.renderWith layout node = ""

theorem Plugin.DeletesBy.readsOnly {k : Kind} {p : Plugin k.Node} {deletes : String → Bool}
    (h : p.DeletesBy deletes) : p.ReadsOnly := by
  intro node path host
  obtain ⟨r, hr⟩ := h.answers node path
  rw [hr]
  trivial

theorem Json.Layout.render_ne_empty (l : Json.Layout) (v : Json) : l.render v ≠ "" := by
  rw [render]
  split <;> simp [LineEnding.text_ne_empty]

namespace Markup

theorem startTagText_ne_empty (name : Name) (attributes : List Attribute) :
    startTagText name attributes ≠ "" := by
  simp [startTagText]

theorem Node.render_renameAttribute_eq_empty (source target : String) (raw : Bool) (n : Node) :
    (n.renameAttribute source target).render raw = "" ↔ n.render raw = "" := by
  cases n with
  | element name attributes children =>
    rw [renameAttribute, render, render]
    split <;> simp [startTagText_ne_empty]
  | _ => rfl

theorem renderAll_renameIn_eq_empty (source target : String) (raw : Bool) (nodes : List Node) :
    renderAll raw (renameIn source target nodes) = "" ↔ renderAll raw nodes = "" := by
  induction nodes with
  | nil => rfl
  | cons n rest ih =>
    rw [renameIn, renderAll, renderAll, String.append_eq_empty_iff, String.append_eq_empty_iff,
      n.render_renameAttribute_eq_empty, ih]

end Markup

/-! ## Sources -/

namespace SourceUnit

/-- What stands before an edit stays. -/
theorem text_ne_empty_of_replace {u v : SourceUnit} {r : Source.Span} {new : String}
    (hr : 0 < r.start) (h : u.replace r new = .ok v) : v.text ≠ "" := by
  obtain ⟨front, old, back, -, hstart, -, rfl⟩ := replace_eq_ok_iff.mp h
  intro hempty
  have hchars : front ++ (new.toList ++ back) = [] := by
    rw [← toList_text_exchange, hempty]
    rfl
  rw [hstart, (List.append_eq_nil_iff.mp hchars).1] at hr
  exact absurd hr (Nat.lt_irrefl 0)

theorem text_ne_empty_of_foldlM {spans : List Source.Span} (hspans : ∀ r ∈ spans, 0 < r.start)
    {new : String} {u v : SourceUnit}
    (h : spans.foldlM (fun (u : SourceUnit) r => u.replace r new) u = .ok v) (hv : v.text = "") :
    u.text = "" := by
  induction spans generalizing u with
  | nil =>
    cases h
    exact hv
  | cons r rest ih =>
    rw [List.forall_mem_cons] at hspans
    rw [List.foldlM_cons] at h
    cases hr : u.replace r new with
    | error e => simp [hr, bind, Except.bind] at h
    | ok w =>
      rw [hr] at h
      exact absurd (ih hspans.2 h) (text_ne_empty_of_replace hspans.1 hr)

end SourceUnit

/-! ## The plugins of rules -/

namespace Rule

section Imports

variable (source target : String) {unit : SourceUnit}

/-- What renaming comes to where the imports are told. -/
theorem renameModule_eq_of_imports {imports : List Source.Import}
    (himports : unit.imports = .ok imports) :
    renameModule source target unit =
      if (spansOf source imports).isEmpty then .ok (.ok .unchanged)
      else .ok (((backToFront (spansOf source imports)).foldlM
        (fun (u : SourceUnit) r => u.replace r target) unit).map .replace) := by
  rw [renameModule, himports]
  dsimp only [Bind.bind, Except.bind]
  split <;> rfl

theorem renameModule_eq_error {cut : Source.Cut} (hcut : unit.imports = .error cut) :
    renameModule source target unit = .error cut := by
  rw [renameModule, hcut]
  rfl

@[simp] theorem backToFront_nil : backToFront [] = [] := by
  simp [backToFront]

theorem mem_backToFront {r : Source.Span} {spans : List Source.Span} :
    r ∈ backToFront spans ↔ r ∈ spans :=
  (List.mergeSort_perm spans _).mem_iff

/-- Renaming does not delete, and leaves text before a name that it replaces. -/
theorem text_ne_empty_of_renameModule {next : SourceUnit}
    (h : renameModule source target unit = .ok (.ok (.replace next))) (hnext : next.text = "") :
    unit.text = "" := by
  cases himports : unit.imports with
  | error cut =>
    rw [renameModule_eq_error source target himports] at h
    cases h
  | ok imports =>
    rw [renameModule_eq_of_imports source target himports] at h
    split at h
    · cases h
    · cases hfold : (backToFront (spansOf source imports)).foldlM
          (fun (u : SourceUnit) r => u.replace r target) unit with
      | error e =>
        rw [hfold] at h
        cases h
      | ok edited =>
        rw [hfold] at h
        cases h
        refine SourceUnit.text_ne_empty_of_foldlM (fun r hr => ?_) hfold hnext
        obtain ⟨i, hi, rfl⟩ := List.mem_map.mp (mem_backToFront.mp hr)
        exact Source.start_pos_of_importsOf himports i (List.mem_filter.mp hi).1

theorem renameModule_ne_delete : renameModule source target unit ≠ .ok (.ok .delete) := by
  cases himports : unit.imports with
  | error cut => simp [renameModule_eq_error source target himports]
  | ok imports =>
    rw [renameModule_eq_of_imports source target himports]
    split
    · simp
    · cases (backToFront (spansOf source imports)).foldlM
        (fun (u : SourceUnit) r => u.replace r target) unit <;> simp [Except.map]

end Imports

theorem deletesBy_importPlugin (source target : String) :
    Plugin.DeletesBy (k := .code) (importPlugin source target) fun _ => false := by
  refine ⟨fun unit path => ?_, fun unit path => ?_, fun unit path next hnext layout hempty => ?_⟩
  · rw [importPlugin]
    split <;> exact ⟨_, rfl⟩
  · have hkept : renameModule source target unit ≠ .ok (.ok .delete) :=
      renameModule_ne_delete source target
    rw [importPlugin]
    split <;> simp_all
  · refine text_ne_empty_of_renameModule source target ?_ hempty
    rw [importPlugin] at hnext
    split at hnext <;> simp_all

theorem deletesBy_setPlugin (file pointer : String) (value : Json) :
    Plugin.DeletesBy (k := .json) (setPlugin file pointer value) fun _ => false := by
  refine ⟨fun doc path => ?_, fun doc path => ?_, fun doc path next _ layout hempty => ?_⟩
  · rw [setPlugin]
    split
    · exact ⟨_, rfl⟩
    · split
      · exact ⟨_, rfl⟩
      · split <;> exact ⟨_, rfl⟩
  · rw [setPlugin]
    split
    · simp
    · split
      · simp
      · split <;> simp
  · exact absurd hempty (Json.Layout.render_ne_empty layout next)

theorem deletesBy_replacePlugin (covers : Option (String → Bool)) (find new : String) :
    Plugin.DeletesBy (k := .text) (replacePlugin covers find new) fun _ => false := by
  refine ⟨fun lines path => ?_, fun lines path => ?_, fun lines path next _ layout hempty => ?_⟩
  · rw [replacePlugin]
    split <;> exact ⟨_, rfl⟩
  · rw [replacePlugin]
    split <;> simp
  · exact absurd hempty (Lines.render_ne_empty layout next)

theorem deletesBy_attributePlugin (source target : String) :
    Plugin.DeletesBy (k := .markup) (attributePlugin source target) fun _ => false := by
  refine ⟨fun tree path => ⟨_, rfl⟩, fun tree path => ?_,
    fun tree path next hnext layout hempty => ?_⟩
  · simp [attributePlugin]
  · obtain rfl : tree.renameAttribute source target = next := by
      simpa [attributePlugin] using hnext
    rw [Markup.Tree.renameAttribute_eq] at hempty
    exact (Markup.renderAll_renameIn_eq_empty source target false tree.nodes).mp hempty

theorem deletesBy_deletePlugin (k : Kind) (covers : String → Bool) :
    Plugin.DeletesBy (k := k) (deletePlugin covers) covers := by
  refine ⟨fun node path => ⟨_, rfl⟩, fun node path => ?_, fun node path next hnext => ?_⟩
  · cases hp : covers path <;> simp [deletePlugin, hp]
  · cases hp : covers path <;> simp [deletePlugin, hp] at hnext

/-- The plugin of a rule deletes what the rule deletes. -/
theorem deletesBy_plugin {k : Kind} {rule : Rule} {p : Plugin k.Node}
    (h : rule.plugin? engine k = some p) : p.DeletesBy (rule.deletes engine ·) := by
  cases rule with
  | renameImport source target =>
    cases k <;> cases h
    exact deletesBy_importPlugin source target
  | jsonSet file pointer value =>
    cases k <;> cases h
    exact deletesBy_setPlugin file pointer value
  | replaceText pattern find new =>
    cases k <;> cases pattern <;> try cases h
    · exact deletesBy_replacePlugin none find new
    · obtain ⟨covers, -, rfl⟩ := Option.map_eq_some_iff.mp h
      exact deletesBy_replacePlugin (some covers) find new
  | renameAttribute source target =>
    cases k <;> cases h
    exact deletesBy_attributePlugin source target
  | deleteFiles pattern =>
    have hmap : (engine.compile pattern).toOption.map deletePlugin = some p := by
      cases k <;> exact h
    obtain ⟨covers, hcovers, rfl⟩ := Option.map_eq_some_iff.mp hmap
    have hdeletes : (fun path => (deleteFiles pattern).deletes engine path) = covers := by
      funext path
      simp [deletes, hcovers]
    rw [hdeletes]
    exact deletesBy_deletePlugin k covers

/-- A rule that is not about documents of a kind does not delete them either. -/
theorem deletes_of_plugin?_eq_none {k : Kind} {rule : Rule} (h : rule.plugin? engine k = none)
    (path : String) : rule.deletes engine path = false := by
  cases rule with
  | deleteFiles pattern =>
    have hmap : (engine.compile pattern).toOption.map (deletePlugin (N := k.Node)) = none := by
      cases k <;> exact h
    simp [deletes, Option.map_eq_none_iff.mp hmap]
  | _ => rfl

end Rule

/-! ## Updaters -/

/-- What plugins of rules have made of a document: it is deleted if one of the rules deletes it, and
otherwise has a text if it had one before. -/
def Result.Follows {k : Kind} (engine : Pattern.Engine) (rules : List Rule) (path : String)
    (node : k.Node) : Result k.Node → Prop
  | .deleted => ∃ rule ∈ rules, rule.deletes engine path = true
  | .node next => (∀ rule ∈ rules, rule.deletes engine path = false) ∧
    ∀ layout : k.Layout, Format.renderWith layout next = "" → Format.renderWith layout node = ""

/-- A rule before the others that does not delete the document. -/
theorem Result.Follows.cons {k : Kind} {rule : Rule} {rules : List Rule} {path : String}
    {node next : k.Node} {result : Result k.Node} (h : result.Follows engine rules path next)
    (hrule : rule.deletes engine path = false)
    (hnext : ∀ layout : k.Layout, Format.renderWith layout next = "" →
      Format.renderWith layout node = "") : result.Follows engine (rule :: rules) path node := by
  cases result with
  | deleted =>
    obtain ⟨other, hother, hdeletes⟩ := h
    exact ⟨other, List.mem_cons_of_mem rule hother, hdeletes⟩
  | node last =>
    exact ⟨List.forall_mem_cons.mpr ⟨hrule, h.1⟩,
      fun layout hempty => hnext layout (h.2 layout hempty)⟩

theorem runPlugins_rules {k : Kind} {rules : List Rule} {path : String} {index : Nat}
    {node : k.Node} {h h' : Host} {result : Result k.Node}
    (hrun : runPlugins path index (rules.filterMap (Rule.plugin? engine k)) node h =
      (.ok result, h')) : result.Follows engine rules path node := by
  induction rules generalizing index node h with
  | nil =>
    cases hrun
    exact ⟨by simp, fun _ hempty => hempty⟩
  | cons rule rest ih =>
    rw [List.filterMap_cons] at hrun
    cases hp : rule.plugin? engine k with
    | none =>
      rw [hp] at hrun
      exact (ih hrun).cons (Rule.deletes_of_plugin?_eq_none hp path) fun _ hempty => hempty
    | some p =>
      have hby := Rule.deletesBy_plugin hp
      obtain ⟨r, hr⟩ := hby.answers node path
      have hrule : r ≠ .ok .delete → rule.deletes engine path = false := by
        intro hne
        rw [Bool.eq_false_iff]
        intro hdeletes
        rw [← hby.delete_iff node, hr] at hdeletes
        exact hne (Script.done.inj hdeletes)
      rw [hp] at hrun
      dsimp only at hrun
      rw [runPlugins, hr] at hrun
      rcases r with reasons | (_ | next | _)
      · cases hrun
      · exact (ih hrun).cons (hrule (by simp)) fun _ hempty => hempty
      · exact (ih hrun).cons (hrule (by simp)) (hby.replace node path next hr)
      · cases hrun
        exact ⟨rule, List.mem_cons_self, (hby.delete_iff node path).mp hr⟩

/-- The updater has the plugins of rules, and the writer of the formats here. -/
structure Updater.Follows (engine : Pattern.Engine) (rules : List Rule) (u : Updater) : Prop where
  plugins : u.plugins = rules.filterMap (Rule.plugin? engine u.kind)
  writer : u.writer = .standard

namespace Updater

variable {u : Updater} {rules : List Rule}

theorem Follows.readsOnly (hu : u.Follows engine rules) : ∀ p ∈ u.plugins, p.ReadsOnly := by
  intro p hp
  rw [hu.plugins] at hp
  obtain ⟨rule, -, hplugin⟩ := List.mem_filterMap.mp hp
  exact (Rule.deletesBy_plugin hplugin).readsOnly

/-- Of a document that has text, nothing at all is given back if and only if a rule deletes it. -/
theorem Follows.update_eq_empty_iff (hu : u.Follows engine rules) {path src : String} {h : Host}
    {content : String} (hsrc : src ≠ "") (hc : (u.update path src h).1 = .ok content) :
    content = "" ↔ ∃ rule ∈ rules, rule.deletes engine path = true := by
  rw [update_eq_of_standard hu.writer] at hc
  split at hc
  · cases hc
  next node format hparse =>
    rw [hu.plugins] at hc
    rcases hrun : runPlugins path 0 (rules.filterMap (Rule.plugin? engine u.kind)) node h with
      ⟨f | (next | _), h'⟩ <;> rw [hrun] at hc
    · cases hc
    · obtain ⟨hkept, htext⟩ := runPlugins_rules hrun
      refine iff_of_false (fun hempty => ?_) ?_
      · rw [hempty] at hc
        have hresult := Except.ok.inj hc
        split at hresult
        next => exact hsrc hresult
        next hne => exact hne (hresult.trans (htext format.layout hresult).symm)
      · rintro ⟨rule, hrule, hdeletes⟩
        simp [hkept rule hrule] at hdeletes
    · cases hc
      exact iff_of_true rfl (runPlugins_rules hrun)

end Updater

end Codemod
