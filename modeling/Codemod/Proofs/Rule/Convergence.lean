import Codemod.Proofs.Json.Reassignment
import Codemod.Proofs.Rule.Meaning

/-!
# Rules that have been applied already

A rule that sets a value in a document without doubles leaves the text that it has made as it is:
the text is read as the document that it was written from, in which the value stands where the rule
puts it. How the text is laid out does not matter by then, since it is not written again.

## Main results

* `Rule.rewrite_rewrite_jsonSet` — a value that is set again.
* `RuleSet.jsonSet_converges` — a text to which the rule is applied again.
-/

namespace Codemod

variable {engine : Pattern.Engine}

/-! ## Documents -/

theorem Json.set_eq_ok {d value next : Json} {pointer : String} :
    d.set pointer value = .ok next ↔
      ∃ ts, Pointer.tokens pointer = some ts ∧ assign value ts d = (.ok (), next) := by
  unfold set setInPlace
  cases Pointer.tokens pointer with
  | none => simp
  | some ts => grind

namespace Rule

variable {file pointer path : String} {value d next : Json}

/-- The document is left as it is, or the value is assigned. -/
theorem rewrite_jsonSet
    (h : rewrite (k := .json) engine path (.jsonSet file pointer value) d = .ok next) :
    next = d ∨
      ∃ ts, Pointer.tokens pointer = some ts ∧ Json.assign value ts d = (.ok (), next) := by
  rw [rewrite] at h
  split at h
  · cases hset : d.set pointer value with
    | error e => simp [hset, Except.mapError] at h
    | ok r =>
      obtain rfl : r = next := by simpa [hset, Except.mapError] using h
      exact .inr (Json.set_eq_ok.mp hset)
  · exact .inl (Except.ok.inj h).symm

/-- A value that is set again changes nothing, unless it is appended to an array. -/
theorem rewrite_rewrite_jsonSet
    (h : rewrite (k := .json) engine path (.jsonSet file pointer value) d = .ok next)
    (hlast : ∀ ts, Pointer.tokens pointer = some ts → Json.appends ts d = false) :
    rewrite (k := .json) engine path (.jsonSet file pointer value) next = .ok next := by
  obtain rfl | ⟨ts, hts, hassign⟩ := rewrite_jsonSet h
  · exact h
  · have hset : next.set pointer value = .ok next :=
      Json.set_eq_ok.mpr ⟨ts, hts, Json.assign_assign hassign (hlast ts hts)⟩
    rw [rewrite, hset]
    split <;> rfl

end Rule

/-! ## Texts -/

/-- Where all units are blank, the layout of a text is. -/
theorem Json.Layout.isBlank_unit_detect {unit : String}
    (hunit : ∀ c ∈ unit.toList, c = ' ' ∨ c = '\t') (src : String) :
    ∀ c ∈ (detect unit src).unit.toList, c = ' ' ∨ c = '\t' := by
  rw [detect]
  cases Indent.detect src.toList with
  | none => exact hunit
  | some i => exact blank_of_mem_text i

theorem Format.settings_applyRules {k : Kind} (f : Format k) (rules : List Rule)
    (path src : String) : (f.applyRules engine rules path src).2.settings = f.settings := by
  unfold applyRules parse
  cases readNode f.settings path src with
  | error e => rfl
  | ok node =>
    dsimp only
    rcases Rule.applyAll engine path 0 (rules.filter (Rule.concerns k)) node
      with e | (result | _) <;> rfl

namespace RuleSet

variable {file pointer path : String} {value : Json} {s : RuleSet}

/-- What becomes of a text does not depend on the texts before it. -/
theorem fst_update_jsonSet (hs : compile engine [.jsonSet file pointer value] = .ok s)
    (f : Format .json) (src : String) (h : Host) :
    ((s.updater f).update path src h).1 =
      match Json.parse src with
      | .error message => .error (.parse path Kind.json.name message)
      | .ok d =>
        match Rule.rewrite (k := .json) engine path (.jsonSet file pointer value) d with
        | .error reasons => .error (.plugin path 0 reasons)
        | .ok next =>
          let l := Json.Layout.detect f.settings src
          .ok (if l.render next = l.render d then src else l.render next) := by
  rw [fst_update_single hs rfl f rfl]
  cases hparse : Json.parse src with
  | error message => simp [Format.readNode, hparse]
  | ok d =>
    simp only [Format.readNode, hparse]
    cases Rule.rewrite (k := .json) engine path (.jsonSet file pointer value) d <;> rfl

/-- A document has no doubles, and neither has the value that the one rule sets in it. If that makes
a text of the document that is not too deep to be read, and nothing was appended to an array by the
token for its end, the text is left as it is when the rule is applied to it, whether or not the
updater remembers the first time. -/
theorem jsonSet_converges (hs : compile engine [.jsonSet file pointer value] = .ok s)
    (hvalue : value.All Json.IsOrdinary) {f : Format .json}
    (hunit : ∀ c ∈ f.settings.toList, c = ' ' ∨ c = '\t') {src t : String}
    (hsrc : ∀ d, Json.parse src = .ok d → d.All Json.IsWhole) {h : Host}
    (hrun : ((s.updater f).update path src h).1 = .ok t)
    (hdepth : ∀ fault, Json.read t.toList = .error fault → fault.cause ≠ .tooDeep)
    (hlast : ∀ d ts, Json.parse src = .ok d → Pointer.tokens pointer = some ts →
      Json.appends ts d = false) (h' : Host) :
    ((s.updater f).update path t h').1 = .ok t ∧
      (((s.updater f).update path src h).2.1.update path t h').1 = .ok t := by
  suffices hagain : ∀ g : Format .json, g.settings = f.settings →
      ((s.updater g).update path t h').1 = .ok t by
    refine ⟨hagain f rfl, ?_⟩
    rw [update_updater hs f]
    exact hagain _ (f.settings_applyRules _ path src)
  intro g hg
  have hfirst := hrun
  rw [fst_update_jsonSet hs] at hrun
  cases hparse : Json.parse src with
  | error message => simp [hparse] at hrun
  | ok d =>
    cases hnext : Rule.rewrite (k := .json) engine path (.jsonSet file pointer value) d with
    | error reasons => simp [hparse, hnext] at hrun
    | ok next =>
      simp only [hparse, hnext, Except.ok.injEq] at hrun
      split at hrun
      · -- the text has been kept, and is kept for the same reason again
        subst hrun
        rw [← hfirst, fst_update_jsonSet hs, fst_update_jsonSet hs, hg]
      next hchanged =>
        obtain ⟨ts, hts, hassign⟩ := (Rule.rewrite_jsonSet hnext).resolve_left fun hsame =>
          hchanged (by rw [hsame])
        have hd : d.All Json.IsOrdinary := (Json.isSound_parse hparse).isOrdinary (hsrc d hparse)
        have hread : Json.parse t = .ok next := by
          have hlayout := Json.Layout.isBlank_unit_detect hunit src
          obtain hok | ⟨fault, hfault, hcause⟩ := Json.read_render hlayout
            (Json.Layout.detect f.settings src).eol (Json.all_assign hvalue hd hassign)
          · rw [Json.parse, ← hrun, hok]
          · rw [hrun] at hfault
            exact absurd hcause (hdepth fault hfault)
        have hsame := Rule.rewrite_rewrite_jsonSet hnext fun ts hts => hlast d ts hparse hts
        rw [fst_update_jsonSet hs, hread]
        simp only [hsame, if_pos]

end RuleSet

namespace Sample

/-- An array of one item. -/
def list : Json :=
  .obj [("a", .arr [.num (.int 1)])]

/-- The array before something is appended to it. -/
def listed : String :=
  "\x7b\r\n\t\"a\": [\r\n\t\t1\r\n\t]\r\n\x7d\r\n"

/-- The array afterwards. -/
def listedMore : String :=
  "\x7b\r\n\t\"a\": [\r\n\t\t1,\r\n\t\t\x7b\r\n\t\t\t\"b\": null\r\n\t\t\x7d\r\n\t]\r\n\x7d\r\n"

theorem isOrdinary_list : list.All Json.IsOrdinary := by
  simp [list, Json.All, Json.AllMembers, Json.AllItems, Json.IsOrdinary]

theorem parse_listed : Json.parse listed = .ok list := by
  have hlisted : listed = Json.Layout.render ⟨Indent.text ⟨true, 1⟩, .crlf⟩ list := by
    decide +kernel
  rw [hlisted]
  exact Json.parse_render ⟨true, 1⟩ .crlf isOrdinary_list (by decide)

end Sample

/-- The second item is appended at first and replaced by itself afterwards. -/
theorem RuleSet.jsonSet_converges_listed :
    ∃ s, compile .standard [.jsonSet "a.json" "/a/1" (.obj [("b", .null)])] = .ok s ∧ ∀ h,
      ((s.updater Format.json).update "a.json" Sample.listed h).1 = .ok Sample.listedMore ∧
      ((s.updater Format.json).update "a.json" Sample.listedMore h).1 =
        .ok Sample.listedMore := by
  obtain ⟨s, hs⟩ :
      ∃ s, compile .standard [.jsonSet "a.json" "/a/1" (.obj [("b", .null)])] = .ok s :=
    exists_compile_iff.mpr (by decide +kernel)
  refine ⟨s, hs, fun h => ?_⟩
  have happlied : (Format.json.applyRules .standard [.jsonSet "a.json" "/a/1" (.obj [("b", .null)])]
      "a.json" Sample.listed).1 = .ok Sample.listedMore := by
    decide +kernel
  have hrun : ((s.updater Format.json).update "a.json" Sample.listed h).1 =
      .ok Sample.listedMore := by
    rw [update_updater hs, happlied]
  have hread : (Json.read Sample.listedMore.toList).isOk = true := by decide +kernel
  refine ⟨hrun, (jsonSet_converges hs ?_ ?_ ?_ hrun ?_ ?_ h).1⟩
  · simp [Json.All, Json.AllMembers, Json.IsOrdinary]
  · simp [Format.json]
  · intro d hd
    obtain rfl := Except.ok.inj (Sample.parse_listed.symm.trans hd)
    simp [Sample.list, Json.All, Json.AllMembers, Json.AllItems, Json.IsWhole]
  · intro fault hfault
    rw [hfault] at hread
    cases hread
  · intro d ts hd hts
    obtain rfl := Except.ok.inj (Sample.parse_listed.symm.trans hd)
    obtain rfl : ["a", "1"] = ts := Option.some.inj hts
    rfl

end Codemod
