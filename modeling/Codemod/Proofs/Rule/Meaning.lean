import Codemod.Proofs.Rule.Plugins
import Mathlib.Data.List.Basic

/-!
# What rules mean

A rule means something by itself: it deletes the files that it is to delete, and makes another node
of those documents that it is about. A list of rules means that they are applied one after the
other, until one deletes the document. What has been compiled from the list does just this, for
each kind of document as if there were no other kinds.

## Main definitions

* `Rule.isValid` — the rules that can be used.
* `Rule.concerns` — the kinds of documents that a rule is about.
* `Rule.rewrite`, `Rule.applyAll` — what one rule, and what a list of rules, makes of a node.
* `Format.applyRules` — what a list of rules makes of a document.

## Main results

* `RuleSet.addAll_cases` — compiling ends at the first rule that cannot be used.
* `Rule.performs_plugin` — the plugin of a rule does what the rule means.
* `Rule.runPlugins_eq_applyAll` — the plugins of a list of rules do what the list means.
* `RuleSet.compile_keeps_meaning` — compiled rules mean what the rules mean.
-/

namespace Codemod

variable {engine : Pattern.Engine}

/-! ## Rules that can be used -/

namespace Rule

/-- A pointer is empty or begins with a slash, and a pattern can be read. -/
def isValid (engine : Pattern.Engine) : Rule → Bool
  | jsonSet _ pointer _ => pointer = "" || hasStart pointer "/"
  | replaceText (some pattern) _ _ => (engine.compile pattern).toOption.isSome
  | deleteFiles pattern => (engine.compile pattern).toOption.isSome
  | _ => true

/-- The place of the rule that cannot be used. -/
def Invalid.index : Invalid → Nat
  | pointer i _ => i
  | pattern i _ _ => i

/-- What is said about an invalid rule begins with its place. -/
theorem Invalid.head?_contexts (e : Invalid) :
    ∃ rest, e.contexts.head? = some ("rule #" ++ toString e.index ++ rest) := by
  cases e with
  | pointer i p =>
    refine ⟨": JSON pointer " ++ Text.quoted p ++ " must start with '/'", ?_⟩
    simp [contexts, index, String.append_assoc]
  | pattern i p cause => exact ⟨"", by simp [contexts, index]⟩

theorem compilePattern_cases (engine : Pattern.Engine) (index : Nat) (pattern : String) :
    (∃ covers, compilePattern engine index pattern = .ok covers ∧
      engine.compile pattern = .ok covers) ∨
      ∃ cause, compilePattern engine index pattern = .error (.pattern index pattern cause) ∧
        engine.compile pattern = .error cause := by
  unfold compilePattern
  cases engine.compile pattern with
  | ok covers => exact .inl ⟨covers, rfl, rfl⟩
  | error cause => exact .inr ⟨cause, rfl, rfl⟩

end Rule

namespace RuleSet

/-- One rule is added if it can be used, and named if it cannot. -/
theorem add_cases (engine : Pattern.Engine) (s : RuleSet) (index : Nat) (rule : Rule) :
    (rule.isValid engine = true ∧ ∃ s', s.add engine index rule = .ok s') ∨
      (rule.isValid engine = false ∧ ∃ e, s.add engine index rule = .error e ∧
        e.index = index) := by
  cases rule with
  | renameImport source target => exact .inl ⟨rfl, _, rfl⟩
  | renameAttribute source target => exact .inl ⟨rfl, _, rfl⟩
  | jsonSet file pointer value =>
    rw [add]
    split
    next hpointer => exact .inl ⟨hpointer, _, rfl⟩
    next hpointer => exact .inr ⟨by simpa [Rule.isValid] using hpointer, _, rfl, rfl⟩
  | replaceText pattern find new =>
    cases pattern with
    | none => exact .inl ⟨rfl, _, rfl⟩
    | some pattern =>
      rw [add]
      obtain ⟨covers, hp, hcompile⟩ | ⟨cause, hp, hcompile⟩ :=
        Rule.compilePattern_cases engine index pattern
      · exact .inl ⟨by simp [Rule.isValid, hcompile, Except.toOption], _, by rw [hp]; rfl⟩
      · exact .inr ⟨by simp [Rule.isValid, hcompile, Except.toOption], _, by rw [hp]; rfl, rfl⟩
  | deleteFiles pattern =>
    rw [add]
    obtain ⟨covers, hp, hcompile⟩ | ⟨cause, hp, hcompile⟩ :=
      Rule.compilePattern_cases engine index pattern
    · exact .inl ⟨by simp [Rule.isValid, hcompile, Except.toOption], _, by rw [hp]; rfl⟩
    · exact .inr ⟨by simp [Rule.isValid, hcompile, Except.toOption], _, by rw [hp]; rfl, rfl⟩

/-- Rules are added until one cannot be used, which is then named by its place. -/
theorem addAll_cases (engine : Pattern.Engine) (s : RuleSet) (index : Nat) (rules : List Rule) :
    ((∀ rule ∈ rules, rule.isValid engine = true) ∧ ∃ s', s.addAll engine index rules = .ok s') ∨
      ∃ before rule after e, rules = before ++ rule :: after ∧
        (∀ r ∈ before, r.isValid engine = true) ∧ rule.isValid engine = false ∧
        s.addAll engine index rules = .error e ∧ e.index = index + before.length := by
  induction rules generalizing s index with
  | nil => exact .inl ⟨by simp, s, rfl⟩
  | cons rule rest ih =>
    obtain ⟨hvalid, s', hadd⟩ | ⟨hinvalid, e, hadd, hindex⟩ := s.add_cases engine index rule
    · have hrest :
          s.addAll engine index (rule :: rest) = s'.addAll engine (index + 1) rest := by
        rw [addAll, hadd]
        rfl
      rw [hrest]
      obtain ⟨hall, hok⟩ | ⟨before, r, after, e, rfl, hbefore, hr, herror, hindex⟩ :=
        ih s' (index + 1)
      · exact .inl ⟨List.forall_mem_cons.mpr ⟨hvalid, hall⟩, hok⟩
      · refine .inr ⟨rule :: before, r, after, e, rfl,
          List.forall_mem_cons.mpr ⟨hvalid, hbefore⟩, hr, herror, ?_⟩
        rw [hindex, List.length_cons]
        omega
    · refine .inr ⟨[], rule, rest, e, rfl, by simp, hinvalid, ?_, hindex⟩
      rw [addAll, hadd]
      rfl

end RuleSet

/-! ## The meaning of rules -/

namespace Rule

/-- Whether the rule is about documents of a kind. A rule that deletes files is about all. -/
def concerns : Kind → Rule → Bool
  | .code, renameImport _ _ => true
  | .markup, renameAttribute _ _ => true
  | .json, jsonSet _ _ _ => true
  | .text, replaceText _ _ _ => true
  | _, deleteFiles _ => true
  | _, _ => false

/-- Whether a pattern, if there is one, is found in a path. -/
def covers (engine : Pattern.Engine) (path : String) : Option String → Bool
  | none => true
  | some pattern => (engine.compile pattern).toOption.any (· path)

/-- What a rule that does not delete the document makes of its node, or the reasons why it fails. -/
def rewrite (engine : Pattern.Engine) (path : String) :
    {k : Kind} → Rule → k.Node → Except (List String) k.Node
  | .code, renameImport source target, unit =>
    match unit.imports with
    | .error _ => .error []
    | .ok imports =>
      ((backToFront (spansOf source imports)).foldlM
        (fun (u : SourceUnit) r => u.replace r target) unit).mapError
          fun e => [(Failure.invalidEdit e.path e.reason).message]
  | .markup, renameAttribute source target, tree => .ok (tree.renameAttribute source target)
  | .json, jsonSet file pointer value, doc =>
    if isFile file path && !(doc.lookup pointer).any (·.equal value) then
      (doc.set pointer value).mapError fun e =>
        ("cannot set " ++ pointer ++ " in " ++ path) :: e.chain
    else .ok doc
  | .text, replaceText pattern find new, lines =>
    .ok (if covers engine path pattern && find ≠ "" then lines.map (substitute · find new)
      else lines)
  | _, _, node => .ok node

/-- Applies rules in order; the first of them has the number `index`. The first that deletes the
document ends it. -/
def applyAll (engine : Pattern.Engine) (path : String) {k : Kind} :
    (index : Nat) → List Rule → k.Node → Except Failure (Result k.Node)
  | _, [], node => .ok (.node node)
  | index, rule :: rest, node =>
    if rule.deletes engine path then .ok .deleted
    else
      match rule.rewrite engine path node with
      | .error reasons => .error (.plugin path index reasons)
      | .ok next => applyAll engine path (index + 1) rest next

end Rule

/-- The new text of a document to which rules are applied, and the format that has read it. The
document keeps its text if it would be written in the same way without the rules. -/
def Format.applyRules {k : Kind} (engine : Pattern.Engine) (f : Format k) (rules : List Rule)
    (path src : String) : Except Failure String × Format k :=
  match f.parse path src with
  | (.error e, f) => (.error e, f)
  | (.ok node, f) =>
    match Rule.applyAll engine path 0 (rules.filter (Rule.concerns k)) node with
    | .error e => (.error e, f)
    | .ok .deleted => (.ok "", f)
    | .ok (.node result) =>
      (.ok (if f.render result = f.render node then src else f.render result), f)

/-! ## Plugins and meaning -/

namespace Text

theorem replaceFrom_of_not_occursIn {w new s : List Char} (h : occursIn w s = false) :
    replaceFrom w new 0 s = s := by
  induction s with
  | nil => rfl
  | cons c s ih =>
    rw [occursIn, Bool.or_eq_false_iff] at h
    rw [replaceFrom, if_neg (by simp [h.1]), ih h.2]

end Text

theorem substitute_of_not_occursIn {s w new : String}
    (h : Text.occursIn w.toList s.toList = false) : substitute s w new = s := by
  rw [substitute, Text.replaceAll, Text.replaceFrom_of_not_occursIn h, String.ofList_toList]

namespace Rule

/-- The outcome of a plugin is what the rule means. Where a document is left as it is, the rule
makes the same node of it. -/
inductive Performs {k : Kind} (engine : Pattern.Engine) (rule : Rule) (path : String)
    (node : k.Node) : Except (List String) (Outcome k.Node) → Prop
  | deleted : rule.deletes engine path = true → Performs engine rule path node (.ok .delete)
  | failed (reasons : List String) : rule.deletes engine path = false →
      rule.rewrite engine path node = .error reasons →
      Performs engine rule path node (.error reasons)
  | replaced (next : k.Node) : rule.deletes engine path = false →
      rule.rewrite engine path node = .ok next →
      Performs engine rule path node (.ok (.replace next))
  | unchanged : rule.deletes engine path = false → rule.rewrite engine path node = .ok node →
      Performs engine rule path node (.ok .unchanged)

theorem performs_importPlugin (source target path : String) (unit : SourceUnit) :
    ∃ r, importPlugin source target unit path = .done r ∧
      Performs (k := .code) engine (renameImport source target) path unit r := by
  rw [importPlugin]
  cases himports : unit.imports with
  | error cut =>
    rw [renameModule_eq_error source target himports]
    exact ⟨_, rfl, .failed _ rfl (by rw [rewrite, himports])⟩
  | ok imports =>
    have hrenamed := renameModule_eq_of_imports source target himports
    cases hnone : (spansOf source imports).isEmpty with
    | true =>
      rw [hrenamed, if_pos hnone]
      refine ⟨_, rfl, .unchanged rfl ?_⟩
      rw [rewrite, himports]
      simp only [List.isEmpty_iff.mp hnone, backToFront_nil]
      rfl
    | false =>
      rw [if_neg (by simp [hnone])] at hrenamed
      cases hfold : (backToFront (spansOf source imports)).foldlM
          (fun (u : SourceUnit) r => u.replace r target) unit with
      | error e =>
        rw [hrenamed, hfold]
        refine ⟨_, rfl, .failed _ rfl ?_⟩
        simp only [rewrite, himports, hfold]
        rfl
      | ok edited =>
        rw [hrenamed, hfold]
        refine ⟨_, rfl, Performs.replaced (k := .code) edited rfl ?_⟩
        simp only [rewrite, himports, hfold]
        rfl

theorem performs_setPlugin (file pointer path : String) (value doc : Json) :
    ∃ r, setPlugin file pointer value doc path = .done r ∧
      Performs (k := .json) engine (jsonSet file pointer value) path doc r := by
  rw [setPlugin]
  split
  next hfile =>
    refine ⟨_, rfl, .unchanged rfl ?_⟩
    simp_all [rewrite]
  next hfile =>
    split
    next hsame =>
      refine ⟨_, rfl, .unchanged rfl ?_⟩
      simp [rewrite, hsame]
    next hsame =>
      have hset : rewrite (k := .json) engine path (jsonSet file pointer value) doc =
          (doc.set pointer value).mapError fun e =>
            ("cannot set " ++ pointer ++ " in " ++ path) :: e.chain := by
        simp_all [rewrite]
      split
      next doc' hdoc =>
        exact ⟨_, rfl, Performs.replaced (k := .json) doc' rfl (by rw [hset, hdoc]; rfl)⟩
      next e hdoc => exact ⟨_, rfl, .failed _ rfl (by rw [hset, hdoc]; rfl)⟩

/-- A word that occurs on no line is replaced on none. -/
theorem performs_replacePlugin {pattern : Option String} {found : Option (String → Bool)}
    {path : String} (hfound : covers engine path pattern = found.all (· path))
    (find new : String) (lines : List String) :
    ∃ r, replacePlugin found find new lines path = .done r ∧
      Performs (k := .text) engine (replaceText pattern find new) path lines r := by
  rw [replacePlugin]
  split
  next happlies =>
    refine ⟨_, rfl, .replaced _ rfl ?_⟩
    simp_all [rewrite]
  next happlies =>
    refine ⟨_, rfl, .unchanged rfl ?_⟩
    rw [rewrite, hfound]
    split
    next hcovers =>
      have hnone : ∀ l ∈ lines, substitute l find new = l := by
        intro l hl
        apply substitute_of_not_occursIn
        simp_all
      rw [List.map_congr_left hnone, List.map_id']
    next => rfl

theorem performs_deletePlugin {k : Kind} {pattern : String} {found : String → Bool}
    (hcompile : engine.compile pattern = .ok found) (path : String) (node : k.Node) :
    ∃ r, deletePlugin found node path = .done r ∧
      Performs engine (deleteFiles pattern) path node r := by
  have hdeletes : (deleteFiles pattern).deletes engine path = found path := by
    simp [deletes, hcompile, Except.toOption]
  cases hfound : found path with
  | true => exact ⟨_, by simp [deletePlugin, hfound], .deleted (hdeletes.trans hfound)⟩
  | false =>
    refine ⟨_, by simp [deletePlugin, hfound], .unchanged (hdeletes.trans hfound) ?_⟩
    cases k <;> rfl

/-- The plugin of a rule, whatever it is about, does what the rule means. -/
theorem performs_plugin {k : Kind} {rule : Rule} {p : Plugin k.Node}
    (h : rule.plugin? engine k = some p) (path : String) (node : k.Node) :
    ∃ r, p node path = .done r ∧ rule.Performs engine path node r := by
  cases rule with
  | renameImport source target =>
    cases k <;> cases h
    exact performs_importPlugin source target path node
  | jsonSet file pointer value =>
    cases k <;> cases h
    exact performs_setPlugin file pointer path value node
  | replaceText pattern find new =>
    cases k <;> cases pattern <;> try cases h
    · exact performs_replacePlugin rfl find new node
    next pattern =>
      obtain ⟨found, hfound, rfl⟩ := Option.map_eq_some_iff.mp h
      exact performs_replacePlugin (by simp [covers, hfound]) find new node
  | renameAttribute source target =>
    cases k <;> cases h
    exact ⟨_, rfl, Performs.replaced (k := .markup) _ rfl rfl⟩
  | deleteFiles pattern =>
    have hmap : (engine.compile pattern).toOption.map deletePlugin = some p := by
      cases k <;> exact h
    obtain ⟨found, hfound, rfl⟩ := Option.map_eq_some_iff.mp hmap
    cases hcompile : engine.compile pattern with
    | error e => simp [hcompile, Except.toOption] at hfound
    | ok found' =>
      obtain rfl : found' = found := by simpa [hcompile, Except.toOption] using hfound
      exact performs_deletePlugin hcompile path node

/-- A rule that can be used has a plugin for the kinds of documents that it is about. -/
theorem plugin?_isSome {rule : Rule} (h : rule.isValid engine = true) (k : Kind) :
    (rule.plugin? engine k).isSome = rule.concerns k := by
  cases rule with
  | replaceText pattern find new =>
    cases pattern with
    | none => cases k <;> rfl
    | some pattern => cases k <;> simp_all [plugin?, concerns, isValid]
  | deleteFiles pattern => cases k <;> simp_all [plugin?, concerns, isValid]
  | _ => cases k <;> rfl

theorem plugin?_of_not_concerns {rule : Rule} {k : Kind} (h : rule.concerns k = false) :
    rule.plugin? engine k = none := by
  cases rule with
  | replaceText pattern find new => cases k <;> first | rfl | cases h
  | _ => cases k <;> first | rfl | cases h

/-- Rules about other kinds of documents have no part in the plugins. -/
theorem filterMap_plugin?_filter (k : Kind) (rules : List Rule) :
    (rules.filter (concerns k)).filterMap (plugin? engine k) =
      rules.filterMap (plugin? engine k) := by
  rw [List.filterMap_filter]
  refine List.filterMap_congr fun rule _ => ?_
  cases hconcerns : rule.concerns k with
  | true => rfl
  | false => simp [plugin?_of_not_concerns hconcerns]

/-- One plugin after the other does what one rule after the other means, and the host stays as it
is. -/
theorem runPlugins_eq_applyAll {k : Kind} {rules : List Rule}
    (hrules : ∀ rule ∈ rules, (rule.plugin? engine k).isSome = true) (path : String) (index : Nat)
    (node : k.Node) (h : Host) :
    runPlugins path index (rules.filterMap (plugin? engine k)) node h =
      (applyAll engine path index rules node, h) := by
  induction rules generalizing index node with
  | nil => rfl
  | cons rule rest ih =>
    rw [List.forall_mem_cons] at hrules
    obtain ⟨p, hp⟩ := Option.isSome_iff_exists.mp hrules.1
    obtain ⟨r, hr, hperforms⟩ := performs_plugin hp path node
    rw [List.filterMap_cons, hp]
    dsimp only
    rw [runPlugins, hr, Script.run, applyAll]
    cases hperforms with
    | deleted hdeletes => simp [hdeletes]
    | failed reasons hdeletes hrewrite => simp [hdeletes, hrewrite]
    | replaced next hdeletes hrewrite => simp [hdeletes, hrewrite, ih hrules.2]
    | unchanged hdeletes hrewrite => simp [hdeletes, hrewrite, ih hrules.2]

end Rule

/-! ## Documents -/

namespace RuleSet

/-- An updater with the plugins for its kind of document. -/
def updater (s : RuleSet) {k : Kind} (f : Format k) : Updater :=
  { kind := k, format := f, plugins := s.plugins k }

/-- Rules can be compiled if and only if all of them can be used. -/
theorem exists_compile_iff {rules : List Rule} :
    (∃ s, compile engine rules = .ok s) ↔ ∀ rule ∈ rules, rule.isValid engine = true := by
  obtain ⟨hvalid, hok⟩ | ⟨before, rule, after, e, rfl, -, hinvalid, herror, -⟩ :=
    addAll_cases engine {} 0 rules
  · exact iff_of_true hok hvalid
  · refine iff_of_false ?_ fun hvalid => ?_
    · rintro ⟨s, hs⟩
      exact absurd (hs.symm.trans herror) (by simp)
    · simp [hvalid rule (by simp)] at hinvalid

theorem exists_compile_error_iff {rules : List Rule} :
    (∃ e, compile engine rules = .error e) ↔ ∃ rule ∈ rules, rule.isValid engine = false := by
  have hneg : (∃ e, compile engine rules = .error e) ↔ ¬ ∃ s, compile engine rules = .ok s := by
    cases compile engine rules <;> simp
  rw [hneg, exists_compile_iff]
  simp

/-- What cannot be compiled is the first rule that cannot be used. -/
theorem first_of_compile_error {rules : List Rule} {e : Rule.Invalid}
    (h : compile engine rules = .error e) :
    (∃ rule, rules[e.index]? = some rule ∧ rule.isValid engine = false) ∧
      ∀ rule ∈ rules.take e.index, rule.isValid engine = true := by
  obtain ⟨-, s, hok⟩ | ⟨before, rule, after, e', rfl, hbefore, hinvalid, herror, hindex⟩ :=
    addAll_cases engine {} 0 rules
  · exact absurd (h.symm.trans hok) (by simp)
  · obtain rfl : e = e' := Except.error.inj (h.symm.trans herror)
    rw [Nat.zero_add] at hindex
    exact ⟨⟨rule, by simp [hindex], hinvalid⟩, by simpa [hindex] using hbefore⟩

/-- The plugins for one kind of document come from the rules about that kind alone. -/
theorem plugins_congr {rules rules' : List Rule} {s s' : RuleSet}
    (hs : compile engine rules = .ok s) (hs' : compile engine rules' = .ok s') {k : Kind}
    (hsame : rules'.filter (Rule.concerns k) = rules.filter (Rule.concerns k)) :
    s'.plugins k = s.plugins k := by
  rw [plugins_compile hs' k, plugins_compile hs k, ← Rule.filterMap_plugin?_filter k rules',
    hsame, Rule.filterMap_plugin?_filter]

/-- A document that is updated with compiled rules becomes what the rules mean. -/
theorem update_updater {rules : List Rule} {s : RuleSet} (hs : compile engine rules = .ok s)
    {k : Kind} (f : Format k) (path src : String) (h : Host) :
    (s.updater f).update path src h =
      ((f.applyRules engine rules path src).1, s.updater (f.applyRules engine rules path src).2,
        h) := by
  have hplugins :
      s.plugins k = (rules.filter (Rule.concerns k)).filterMap (Rule.plugin? engine k) := by
    rw [Rule.filterMap_plugin?_filter, plugins_compile hs k]
  have hconcerned :
      ∀ rule ∈ rules.filter (Rule.concerns k), (rule.plugin? engine k).isSome = true := by
    intro rule hrule
    obtain ⟨hmem, hconcerns⟩ := List.mem_filter.mp hrule
    rw [Rule.plugin?_isSome (exists_compile_iff.mp ⟨s, hs⟩ rule hmem), hconcerns]
  rw [Updater.update_eq_of_standard rfl, Format.applyRules, updater]
  rcases f.parse path src with ⟨e | node, f'⟩
  · rfl
  · dsimp only
    rw [hplugins, Rule.runPlugins_eq_applyAll hconcerned]
    rcases Rule.applyAll engine path 0 (rules.filter (Rule.concerns k)) node
      with e | (result | _) <;>
      simp [updater, hplugins]

/-- A document that is updated with one rule that does not delete it. -/
theorem fst_update_single {rule : Rule} {s : RuleSet} (hs : compile engine [rule] = .ok s)
    {k : Kind} (hconcerns : rule.concerns k = true) (f : Format k) {path : String}
    (hdeletes : rule.deletes engine path = false) (src : String) (h : Host) :
    ((s.updater f).update path src h).1 =
      match Format.readNode f.settings path src with
      | .error e => .error e
      | .ok node =>
        match rule.rewrite engine path node with
        | .error reasons => .error (.plugin path 0 reasons)
        | .ok next =>
          let f' := (f.parse path src).2
          .ok (if f'.render next = f'.render node then src else f'.render next) := by
  rw [update_updater hs, Format.applyRules, List.filter_cons_of_pos hconcerns, List.filter_nil]
  rcases hnode : Format.readNode f.settings path src with e | node
  · simp [Format.parse, hnode]
  · simp only [Format.parse, hnode, Rule.applyAll, hdeletes]
    rcases rule.rewrite engine path node with reasons | next <;> rfl

/-- Rules cannot be compiled if and only if one of them has a pointer that is not empty and does not
begin with a slash, or a pattern that cannot be read; the first of these is named by its place.
Otherwise an updater with the plugins for its kind of document does what the rules about that kind,
and those that delete files, mean one after the other. It does the same with any other rules that
can be used and of which the same ones are about that kind, in the same order. -/
theorem compile_keeps_meaning (engine : Pattern.Engine) (rules : List Rule) :
    ((∃ e, compile engine rules = .error e) ↔ ∃ rule ∈ rules, rule.isValid engine = false) ∧
    (∀ e, compile engine rules = .error e →
      (∃ rule, rules[e.index]? = some rule ∧ rule.isValid engine = false) ∧
      (∀ rule ∈ rules.take e.index, rule.isValid engine = true) ∧
      ∃ rest, e.contexts.head? = some ("rule #" ++ toString e.index ++ rest)) ∧
    ∀ s, compile engine rules = .ok s → ∀ (k : Kind),
      (∀ (f : Format k) (path src : String) (h : Host),
        (s.updater f).update path src h =
          ((f.applyRules engine rules path src).1,
            s.updater (f.applyRules engine rules path src).2, h)) ∧
      ∀ rules', (∀ rule ∈ rules', rule.isValid engine = true) →
        rules'.filter (Rule.concerns k) = rules.filter (Rule.concerns k) →
        ∃ s', compile engine rules' = .ok s' ∧ ∀ (f : Format k) (path src : String) (h : Host),
          (s'.updater f).update path src h = (s.updater f).update path src h := by
  refine ⟨exists_compile_error_iff, fun e he => ?_, fun s hs k =>
    ⟨fun f path src h => update_updater hs f path src h, fun rules' hvalid' hsame => ?_⟩⟩
  · obtain ⟨hinvalid, hbefore⟩ := first_of_compile_error he
    exact ⟨hinvalid, hbefore, e.head?_contexts⟩
  · obtain ⟨s', hs'⟩ := exists_compile_iff.mpr hvalid'
    refine ⟨s', hs', fun f path src h => ?_⟩
    rw [updater, updater, plugins_congr hs hs' hsame]

end RuleSet

namespace Sample

/-- A word is replaced in texts that are not deleted, and something is done to code. -/
def rules : List Rule :=
  [.deleteFiles "old", .renameImport "a" "b", .replaceText none "x" "y"]

end Sample

/-- A text is deleted or has its word replaced, with or without the rule about code. -/
theorem RuleSet.compile_keeps_meaning_rules :
    ∃ s s', compile .standard Sample.rules = .ok s ∧
      compile .standard [.deleteFiles "old", .replaceText none "x" "y"] = .ok s' ∧ ∀ h,
        ((s.updater Format.text).update "a.txt" "x\n" h).1 = .ok "y\n" ∧
        ((s'.updater Format.text).update "a.txt" "x\n" h).1 = .ok "y\n" ∧
        ((s.updater Format.text).update "old.txt" "x\n" h).1 = .ok "" := by
  obtain ⟨hfails, -, hmeaning⟩ := compile_keeps_meaning .standard Sample.rules
  cases hs : compile .standard Sample.rules with
  | error e => exact absurd (hfails.mp ⟨e, hs⟩) (by decide +kernel)
  | ok s =>
    obtain ⟨hupdate, hsame⟩ := hmeaning s hs .text
    obtain ⟨s', hs', hupdate'⟩ := hsame [.deleteFiles "old", .replaceText none "x" "y"]
      (by decide +kernel) rfl
    have hreplaced :
        (Format.text.applyRules .standard Sample.rules "a.txt" "x\n").1 = .ok "y\n" := by
      decide +kernel
    have hdeleted : (Format.text.applyRules .standard Sample.rules "old.txt" "x\n").1 = .ok "" := by
      decide +kernel
    refine ⟨s, s', rfl, hs', fun h => ⟨?_, ?_, ?_⟩⟩
    · rw [hupdate, hreplaced]
    · rw [hupdate', hupdate, hreplaced]
    · rw [hupdate, hdeleted]

end Codemod
