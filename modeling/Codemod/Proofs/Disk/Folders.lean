import Codemod.Proofs.Disk.Project

/-!
# Folders that are made

To make a folder, with the folders above it, is to add folders to the disk and nothing else: every
entry stays where it was, and each of the new folders is the place of a path that was to be made.
This is so on every disk, and also when the last of the folders could not be made.

## Main definitions

* `Disk.Extends` — every entry is still there.
* `Disk.AddsFolders` — folders are added at places that were vacant, each for a path.

## Main results

* `Disk.Extends.locate` — what is found is found again when more is there.
* `Disk.addsFolders_makeFolders` — the folders that are made for a path.
-/

namespace Codemod.Disk

/-! ## More entries -/

/-- Every entry is still there, perhaps among others. -/
structure Extends (d d' : Disk) : Prop where
  home : d'.home = d.home
  entry : ∀ p e, d.get? p = some e → d'.get? p = some e

namespace Extends

variable {d d' : Disk} {follow : Bool}

theorem vacant (h : d.Extends d') {p : Place} (hp : d'.get? p = none) : d.get? p = none := by
  cases hg : d.get? p with
  | none => rfl
  | some e => exact absurd ((h.entry p e hg).symm.trans hp) (by simp)

/-- Following segments to an entry meets only entries, which are all still there. -/
theorem arrives (h : d.Extends d') {links : Nat} {here p : Place} {segments : List Name}
    {e : Entry} (ha : d.Arrives follow links here segments (.found p e)) :
    d'.Arrives follow links here segments (.found p e) := by
  generalize ht : Target.found p e = t at ha
  induction ha with
  | here links here => exact .here links here
  | idle hs _ ih => exact .idle hs (ih ht)
  | up _ ih => exact .up (ih ht)
  | folder hs hg _ ih => exact .folder hs (h.entry _ _ hg) (ih ht)
  | file hs hg => exact .file hs (h.entry _ _ hg)
  | vacant => cases ht
  | kept hs hg hfollow => exact .kept hs (h.entry _ _ hg) hfollow
  | jump hs hg hlast _ ih => exact .jump hs (h.entry _ _ hg) hlast (ih ht)

theorem locate (h : d.Extends d') {path : String} {p : Place} {e : Entry}
    (hl : d.locate follow path = .ok (.found p e)) :
    d'.locate follow path = .ok (.found p e) :=
  locate_of_arrives hl (h.home ▸ h.arrives (arrives_of_locate hl))

end Extends

/-! ## More folders -/

/-- The disk with folders at more places. -/
def withFolders (d : Disk) (places : List Place) : Disk :=
  { d with entries := d.entries ++ places.map (·, .folder) }

theorem find_append (p : Place) (l l' : List (Place × Entry)) :
    find p (l ++ l') = (find p l).or (find p l') := by
  fun_induction find p l with
  | case1 => rfl
  | case2 e rest => simp [find]
  | case3 q e rest hq ih => simp [find, hq, ih]

theorem find_map_folder (p : Place) (places : List Place) :
    find p (places.map (·, .folder)) = if p ∈ places then some .folder else none := by
  induction places with
  | nil => rfl
  | cons q places ih =>
    by_cases hq : q = p
    · simp [find, hq]
    · simp [find, hq, Ne.symm hq, ih]

theorem get?_withFolders (d : Disk) (places : List Place) (p : Place) :
    (d.withFolders places).get? p = (d.get? p).or (if p ∈ places then some .folder else none) := by
  unfold get? withFolders
  by_cases hp : p = []
  · simp [hp]
  · simp only [if_neg hp, find_append, find_map_folder]

theorem extends_withFolders (d : Disk) (places : List Place) :
    d.Extends (d.withFolders places) := by
  refine ⟨rfl, fun p e hp => ?_⟩
  rw [get?_withFolders, hp, Option.some_or]

theorem replace_of_find_eq_none {p : Place} {l : List (Place × Entry)} (h : find p l = none)
    (e : Entry) : replace p e l = l ++ [(p, e)] := by
  fun_induction replace p e l with
  | case1 => rfl
  | case2 f rest => simp [find] at h
  | case3 q f rest hq ih =>
    rw [find, if_neg hq] at h
    rw [ih h, List.cons_append]

theorem set_folder_eq_withFolders {d : Disk} {p : Place} (h : d.get? p = none) :
    d.set p .folder = d.withFolders [p] := by
  have hne : p ≠ [] := ne_nil_of_get?_ne_folder (d := d) (by simp [h])
  rw [get?, if_neg hne] at h
  rw [set, replace_of_find_eq_none h]
  rfl

/-- Folders have been added at places where nothing was, and nothing else has changed. Each of them
is what a path with the property `P` leads to. -/
def AddsFolders (d d' : Disk) (P : String → Prop) : Prop :=
  ∃ places, d' = d.withFolders places ∧ places.Nodup ∧
    ∀ p ∈ places, d.get? p = none ∧
      ∃ path, P path ∧ d'.locate true path = .ok (.found p .folder)

namespace AddsFolders

variable {d d' e : Disk} {P Q : String → Prop}

theorem refl (d : Disk) (P : String → Prop) : d.AddsFolders d P :=
  ⟨[], by simp [withFolders], List.nodup_nil, by simp⟩

theorem extend (h : d.AddsFolders d' P) : d.Extends d' := by
  obtain ⟨places, rfl, -, -⟩ := h
  exact extends_withFolders d places

theorem mono (h : d.AddsFolders d' P) (hPQ : ∀ path, P path → Q path) : d.AddsFolders d' Q := by
  obtain ⟨places, hd', hnodup, hplaces⟩ := h
  refine ⟨places, hd', hnodup, fun p hp => ?_⟩
  obtain ⟨hnone, path, hP, hpath⟩ := hplaces p hp
  exact ⟨hnone, path, hPQ path hP, hpath⟩

/-- The folders that are added first are still there in the end, so that none is added twice. -/
theorem trans (h : d.AddsFolders e P) (g : e.AddsFolders d' P) : d.AddsFolders d' P := by
  have hextends := h.extend
  have gextends := g.extend
  obtain ⟨first, rfl, hnodup, hfirst⟩ := h
  obtain ⟨second, rfl, gnodup, hsecond⟩ := g
  refine ⟨first ++ second, by simp [withFolders], ?_, fun p hp => ?_⟩
  · refine List.nodup_append.mpr ⟨hnodup, gnodup, ?_⟩
    rintro p hp q hq rfl
    have hnone := (hsecond p hq).1
    simp [get?_withFolders, (hfirst p hp).1, hp] at hnone
  · rcases List.mem_append.mp hp with hp | hp
    · obtain ⟨hnone, path, hP, hpath⟩ := hfirst p hp
      exact ⟨hnone, path, hP, gextends.locate hpath⟩
    · obtain ⟨hnone, hpath⟩ := hsecond p hp
      exact ⟨hextends.vacant hnone, hpath⟩

end AddsFolders

/-! ## Making folders -/

/-- A place that is vacant is the place of a folder once one is there. -/
theorem Arrives.withFolders {d : Disk} {follow : Bool} {links : Nat} {here p : Place}
    {segments : List Name} (h : d.Arrives follow links here segments (.vacant p)) :
    d.get? p = none ∧
      (d.withFolders [p]).Arrives true links here segments (.found p .folder) := by
  have hkept := (extends_withFolders d [p]).entry
  generalize ht : Target.vacant p = t at h
  induction h with
  | here | file | kept => cases ht
  | idle hs _ ih => exact (ih ht).imp_right (.idle hs)
  | up _ ih => exact (ih ht).imp_right .up
  | folder hs hg _ ih => exact (ih ht).imp_right (.folder hs (hkept _ _ hg))
  | vacant hs hg =>
    cases ht
    exact ⟨hg, .folder hs (by simp [get?_withFolders, hg]) (.here _ _)⟩
  | jump hs hg _ _ ih => exact (ih ht).imp_right (.jump hs (hkept _ _ hg) (.inl rfl))

theorem addsFolders_makeFolder {d d' : Disk} {path : String} (h : d.makeFolder path = .ok d') :
    d.AddsFolders d' (· = path) := by
  rw [makeFolder_eq] at h
  split at h
  · cases h
  · cases h
  next p hl =>
    obtain rfl := Except.ok.inj h
    obtain ⟨hnone, harrives⟩ := (arrives_of_locate hl).withFolders
    rw [set_folder_eq_withFolders hnone]
    refine ⟨[p], rfl, by simp, fun q hq => ?_⟩
    obtain rfl := List.mem_singleton.mp hq
    exact ⟨hnone, path, rfl, locate_of_arrives hl harrives⟩

theorem addsFolders_makeChain (d : Disk) (paths : List String) :
    d.AddsFolders (d.makeChain paths).1 (· ∈ paths) := by
  refine makeChain_of_makeFolder (R := (AddsFolders · · (· ∈ paths))) (fun d => .refl d _)
    (fun _ _ _ h g => h.trans g) (fun path hpath d d' h => ?_) d
  refine (addsFolders_makeFolder h).mono ?_
  rintro _ rfl
  exact hpath

/-- Whether all folders can be made or not, those that are made are on the way to the path. -/
theorem addsFolders_makeFolders (d : Disk) (path : String) :
    d.AddsFolders (d.makeFolders path).1 (· ∈ Path.ancestors path) :=
  addsFolders_makeChain d _

end Codemod.Disk
