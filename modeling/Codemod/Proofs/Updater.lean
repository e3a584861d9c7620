import Codemod.Updater

/-!
# What updaters do

An updater reads a document twice. Reading it again changes neither the node nor what is remembered,
so that a document whose node no plugin replaces keeps its text, whatever its format makes of it.
A document can fail to be read, and to be written, before its plugins come to it and after.

## Main definitions

* `Script.ReadsOnly` — a script that asks things and changes no file.
* `Plugin.IsIdle` — a plugin that leaves documents and project alone.
* `Plugin.ReadsOnly` — a plugin that leaves the project alone.

## Main results

* `Script.ReadsOnly.overlay_run` — such a script leaves the project as it is.
* `Updater.prepare_eq` — what comes before the plugins, with the document read once.
* `Updater.update_eq_of_standard` — an update with the writer of the formats here.
* `Updater.update_idle` — idle plugins keep the text.
-/

namespace Codemod

/-! ## Scripts -/

namespace Script

/-- Run on this host, the script asks things but neither adds nor deletes a file. -/
def ReadsOnly : Script α → Host → Prop
  | done _, _ => True
  | contains p next, h => (next (h.overlay.contains p)).ReadsOnly h
  | list p r next, h => (next (h.overlay.list p r)).ReadsOnly h
  | read p next, h => (next (h.overlay.read? p)).ReadsOnly h
  | add _ _ _, _ => False
  | delete _ _, _ => False
  | cancel b next, h => next.ReadsOnly { h with canceled := b }
  | note v next, h => next.ReadsOnly { h with notes := h.notes ++ [v] }

theorem ReadsOnly.overlay_run {s : Script α} {h : Host} (hs : s.ReadsOnly h) :
    (s.run h).2.overlay = h.overlay := by
  induction s generalizing h with
  | done a => rfl
  | contains p next ih => exact ih _ hs
  | list p r next ih => exact ih _ hs
  | read p next ih => exact ih _ hs
  | add p c next _ => exact hs.elim
  | delete p next _ => exact hs.elim
  | cancel b next ih => exact ih hs
  | note v next ih => exact ih hs

end Script

/-! ## Plugins -/

/-- The plugin leaves the document unchanged and changes no file of the project. -/
structure Plugin.IsIdle (p : Plugin N) : Prop where
  unchanged : ∀ node path h, ((p node path).run h).1 = .ok .unchanged
  readsOnly : ∀ node path h, (p node path).ReadsOnly h

/-- Whatever it is asked, the plugin edits no file through its host. -/
def Plugin.ReadsOnly (p : Plugin N) : Prop :=
  ∀ node path h, (p node path).ReadsOnly h

theorem runPlugins_idle {plugins : List (Plugin N)} (hp : ∀ p ∈ plugins, p.IsIdle) (path : String)
    (index : Nat) (node : N) (h : Host) :
    ∃ h', runPlugins path index plugins node h = (.ok (.node node), h') ∧
      h'.overlay = h.overlay := by
  induction plugins generalizing index h with
  | nil => exact ⟨h, rfl, rfl⟩
  | cons p rest ih =>
    have hidle := hp p List.mem_cons_self
    have hrun : (p node path).run h = (.ok .unchanged, ((p node path).run h).2) :=
      Prod.ext (hidle.unchanged node path h) rfl
    obtain ⟨h', hrest, hsame⟩ := ih (fun q hq => hp q (List.mem_cons_of_mem p hq)) (index + 1)
      ((p node path).run h).2
    refine ⟨h', ?_, hsame.trans (hidle.readsOnly node path h).overlay_run⟩
    rw [runPlugins, hrun]
    exact hrest

/-! ## Formats -/

namespace Format

theorem keepUnit_keepUnit (u : SourceUnit) (l : List SourceUnit) :
    keepUnit u (keepUnit u l) = keepUnit u l := by
  fun_induction keepUnit u l with
  | case1 => simp [keepUnit]
  | case2 v rest hv => simp [keepUnit]
  | case3 v rest hv ih => simp [keepUnit, hv, ih]

theorem remember_remember {k : Kind} (settings : k.Settings) (memory : k.Memory)
    (path src : String) :
    remember settings (remember settings memory path src) path src =
      remember settings memory path src := by
  cases k with
  | text => rfl
  | json => rfl
  | markup => rfl
  | code => exact keepUnit_keepUnit _ _

/-- Reading a document again gives the same node and leaves the same memory. -/
theorem parse_parse {k : Kind} (f : Format k) (path src : String) :
    (f.parse path src).2.parse path src = f.parse path src := by
  simp [parse, remember_remember]

@[simp] theorem serialize_standard {k : Kind} (f : Format k) (path : String) (node : k.Node) :
    f.serialize .standard path node = .ok (f.render node) := rfl

end Format

/-! ## Updaters -/

namespace Updater

/-- What comes before the plugins, with the document read once. -/
theorem prepare_eq (u : Updater) (path src : String) :
    u.prepare path src =
      match u.format.parse path src with
      | (.error f, format) => (.error f, format)
      | (.ok node, format) =>
        ((format.serialize u.writer path node).map fun text => (text, node), format) := by
  have hagain := u.format.parse_parse path src
  unfold prepare
  rcases hp : u.format.parse path src with ⟨f | node, format⟩
  · rfl
  · rw [hp] at hagain
    dsimp only
    cases hw : format.serialize u.writer path node with
    | error f => rfl
    | ok text =>
      dsimp only
      rw [hagain]
      rfl

@[simp] theorem prepare_snd (u : Updater) (path src : String) :
    (u.prepare path src).2 = (u.format.parse path src).2 := by
  rw [prepare_eq]
  rcases u.format.parse path src with ⟨f | node, format⟩ <;> rfl

/-- Of the updater an update changes only what the format remembers. -/
theorem updater_update (u : Updater) (path src : String) (h : Host) :
    (u.update path src h).2.1 = { u with format := (u.format.parse path src).2 } := by
  rw [update, ← prepare_snd]
  rcases u.prepare path src with ⟨f | ⟨roundTrip, node⟩, format⟩
  · rfl
  · dsimp only
    rcases runPlugins path 0 u.plugins node h with ⟨f | (result | _), h'⟩
    · rfl
    · dsimp only
      cases format.serialize u.writer path result <;> rfl
    · rfl

/-- A document that comes to the plugins has been written untouched. -/
theorem serialize_of_prepare {u : Updater} {path src roundTrip : String} {node : u.kind.Node}
    {format : Format u.kind} (h : u.prepare path src = (.ok (roundTrip, node), format)) :
    format.serialize u.writer path node = .ok roundTrip := by
  rw [prepare_eq] at h
  rcases hp : u.format.parse path src with ⟨f | node', format'⟩
  · rw [hp] at h
    cases h
  · rw [hp] at h
    obtain ⟨hresult, rfl⟩ := Prod.mk.inj h
    cases hw : format'.serialize u.writer path node' with
    | error f => simp [hw, Except.map] at hresult
    | ok text =>
      obtain ⟨rfl, rfl⟩ : text = roundTrip ∧ node' = node := by
        simpa [hw, Except.map] using hresult
      exact hw

/-- An update with the writer of the formats here, which does not fail, and with the document read
once. -/
theorem update_eq_of_standard {u : Updater} (hw : u.writer = .standard) (path src : String)
    (h : Host) :
    u.update path src h =
      match u.format.parse path src with
      | (.error f, format) => (.error f, { u with format }, h)
      | (.ok node, format) =>
        match runPlugins path 0 u.plugins node h with
        | (.error f, h) => (.error f, { u with format }, h)
        | (.ok .deleted, h) => (.ok "", { u with format }, h)
        | (.ok (.node result), h) =>
          (.ok (if format.render result = format.render node then src else format.render result),
            { u with format }, h) := by
  rw [update, prepare_eq, hw]
  rcases u.format.parse path src with ⟨f | node, format⟩
  · rfl
  · rcases hrun : runPlugins path 0 u.plugins node h with ⟨f | (result | _), h'⟩ <;>
      simp only [Format.serialize_standard, Except.map, hrun]

/-- All plugins of the updater are idle. -/
def IsIdle (u : Updater) : Prop :=
  ∀ p ∈ u.plugins, p.IsIdle

/-- With idle plugins a document that can be read keeps its text to the letter, and the project is
as it was in any case. -/
theorem update_idle {u : Updater} (hu : u.IsIdle) (path src : String) (h : Host) :
    (∀ text, (u.update path src h).1 = .ok text → text = src) ∧
      (u.update path src h).2.1.IsIdle ∧ (u.update path src h).2.2.overlay = h.overlay := by
  rw [update]
  rcases hprepared : u.prepare path src with ⟨f | ⟨roundTrip, node⟩, format⟩
  · exact ⟨by simp, hu, rfl⟩
  · obtain ⟨h', hrun, hsame⟩ := runPlugins_idle hu path 0 node h
    dsimp only
    rw [hrun]
    dsimp only
    rw [serialize_of_prepare hprepared]
    refine ⟨fun text ht => ?_, hu, hsame⟩
    simpa using ht.symm

end Updater

end Codemod
