import Codemod.Proofs.Disk.Tree
import Codemod.Proofs.Path

/-!
# Where paths lead

A path is followed through folders and links. The route of a path says where it leads without
saying whether anything is there yet: a name that is missing on the way counts as the folder that
will have to be made.

## Main definitions

* `Disk.Place.names` — the segments of a path that count, as names.
* `Disk.Arrives` — the ways in which following segments ends at a target.
* `Disk.Route` — the way along names from one place to another.
* `Disk.PointsTo` — the place that a path stands for.

## Main results

* `Disk.resolve_eq_ok_iff` — these are the ways in which it does.
* `Disk.Arrives.shows` — what following segments comes to is on the disk.
* `Disk.Route.place_eq`, `Disk.Route.resolve_noEntry` — it is at the end of the route, and if the
  way is missing there is nothing.
* `Disk.Keeps.arrives` — what can be followed stays so.
-/

namespace Codemod.Disk

/-! ## One segment -/

section Equations

variable {d : Disk} {follow : Bool} {links : Nat} {here : Place}

theorem resolve_nil : d.resolve follow links here [] = .ok (.found here .folder) := by
  rw [resolve.eq_def]
  simp [step]

theorem resolve_idle {s : Name} (h : s.isIdle = true) (rest : List Name) :
    d.resolve follow links here (s :: rest) = d.resolve follow links here rest := by
  rw [resolve.eq_def, resolve.eq_def]
  simp [step, h]

theorem resolve_up (rest : List Name) :
    d.resolve follow links here (".." :: rest) = d.resolve follow links here.dropLast rest := by
  rw [resolve.eq_def, resolve.eq_def]
  simp [step, show Name.isIdle ".." = false by decide]

/-- What becomes of a name depends on the entry it stands for. -/
theorem resolve_name {s : Name} (hi : s.isIdle = false) (hu : s ≠ "..")
    (rest : List Name) :
    d.resolve follow links here (s :: rest) =
      if nameLimit < s.size then .error .nameTooLong
      else
        match d.get? (here ++ [s]) with
        | none => if rest = [] then .ok (.vacant (here ++ [s])) else .error .noEntry
        | some .folder => d.resolve follow links (here ++ [s]) rest
        | some (.file b) =>
          if rest = [] then .ok (.found (here ++ [s]) (.file b)) else .error .notFolder
        | some (.link t) =>
          if rest = [] ∧ follow = false then .ok (.found (here ++ [s]) (.link t))
          else
            match links with
            | 0 => .error .tooManyLinks
            | links + 1 => d.resolve follow links (start t here) (Place.of t ++ rest) := by
  rw [resolve.eq_def]
  simp only [step, hi, hu, if_false, Bool.false_eq_true]
  by_cases hlong : nameLimit < s.size
  · simp only [hlong, if_true]
  · cases hg : d.get? (here ++ [s]) with
    | none => by_cases hr : rest = [] <;> simp [hlong, hr]
    | some e =>
      cases e with
      | folder =>
        simp only [hlong, if_false]
        rw [resolve.eq_def]
      | file b => by_cases hr : rest = [] <;> simp [hlong, hr]
      | link t =>
        by_cases hr : rest = [] <;> cases follow <;> cases links <;> simp [hlong, hr]

end Equations

/-- Following segments, as an induction: along the segments, and into a link with one link fewer to
go. -/
theorem resolve_induction {motive : Nat → Place → List Name → Prop}
    (nil : ∀ links here, motive links here [])
    (idle : ∀ links here (s : Name) rest, s.isIdle = true → motive links here rest →
      motive links here (s :: rest))
    (up : ∀ links here rest, motive links here.dropLast rest → motive links here (".." :: rest))
    (name : ∀ links here (s : Name) rest, s.isIdle = false → s ≠ ".." →
      motive links (here ++ [s]) rest →
      (∀ m t, links = m + 1 → motive m (start t here) (Place.of t ++ rest)) →
      motive links here (s :: rest))
    (links : Nat) (here : Place) (segments : List Name) : motive links here segments := by
  induction links using Nat.strongRecOn generalizing here segments with
  | ind links outer =>
    induction segments generalizing here with
    | nil => exact nil links here
    | cons s rest ih =>
      cases hi : s.isIdle with
      | true => exact idle links here s rest hi (ih here)
      | false =>
        by_cases hu : s = ".."
        · exact hu ▸ up links here rest (ih _)
        · refine name links here s rest hi hu (ih _) fun m t h => ?_
          exact outer m (by omega) (start t here) (Place.of t ++ rest)

/-! ## What is there -/

def Target.place : Target → Place
  | found p _ => p
  | vacant p => p

/-- The disk has at the place what the target says; a place that is vacant is in a folder. -/
def Shows (d : Disk) : Target → Prop
  | .found p e => d.get? p = some e
  | .vacant p => d.get? p = none ∧ d.get? p.dropLast = some .folder

theorem get?_start {d : Disk} (path : String) {here : Place}
    (hh : d.get? here = some .folder) : d.get? (start path here) = some .folder := by
  unfold start
  split
  · rfl
  · exact hh

/-! ## Arriving -/

/-- A segment that stands for an entry of the folder it is followed from. -/
structure IsStep (s : Name) : Prop where
  not_idle : s.isIdle = false
  ne_up : s ≠ ".."
  short : ¬ nameLimit < s.size

/-- Following segments from the folder `here`, and at most `links` links on the way, ends at a
target. The last name may stand for anything, all others for folders or links. -/
inductive Arrives (d : Disk) (follow : Bool) : (links : Nat) → Place → List Name → Target → Prop
  | here (links : Nat) (here : Place) : Arrives d follow links here [] (.found here .folder)
  | idle {links : Nat} {here : Place} {s : Name} {rest : List Name} {t : Target} :
      s.isIdle = true → Arrives d follow links here rest t →
      Arrives d follow links here (s :: rest) t
  | up {links : Nat} {here : Place} {rest : List Name} {t : Target} :
      Arrives d follow links here.dropLast rest t → Arrives d follow links here (".." :: rest) t
  | folder {links : Nat} {here : Place} {s : Name} {rest : List Name} {t : Target} :
      IsStep s → d.get? (here ++ [s]) = some .folder →
      Arrives d follow links (here ++ [s]) rest t → Arrives d follow links here (s :: rest) t
  | file {links : Nat} {here : Place} {s : Name} {b : Bytes} :
      IsStep s → d.get? (here ++ [s]) = some (.file b) →
      Arrives d follow links here [s] (.found (here ++ [s]) (.file b))
  | vacant {links : Nat} {here : Place} {s : Name} :
      IsStep s → d.get? (here ++ [s]) = none →
      Arrives d follow links here [s] (.vacant (here ++ [s]))
  /-- A link at the end is kept as it is. -/
  | kept {links : Nat} {here : Place} {s : Name} {l : String} :
      IsStep s → d.get? (here ++ [s]) = some (.link l) → follow = false →
      Arrives d follow links here [s] (.found (here ++ [s]) (.link l))
  | jump {links : Nat} {here : Place} {s : Name} {l : String} {rest : List Name} {t : Target} :
      IsStep s → d.get? (here ++ [s]) = some (.link l) → (follow = true ∨ rest ≠ []) →
      Arrives d follow links (start l here) (Place.of l ++ rest) t →
      Arrives d follow (links + 1) here (s :: rest) t

section Arrives

variable {d d' : Disk} {follow : Bool} {links : Nat} {here : Place} {segments : List Name}
  {t : Target}

theorem arrives_of_resolve (links : Nat) (here : Place) (segments : List Name) :
    ∀ t, d.resolve follow links here segments = .ok t → d.Arrives follow links here segments t := by
  induction links, here, segments using resolve_induction with
  | nil links here =>
    intro t ht
    rw [resolve_nil] at ht
    obtain rfl := Except.ok.inj ht
    exact .here links here
  | idle links here s rest hs ih => exact fun t ht => .idle hs (ih t (resolve_idle hs rest ▸ ht))
  | up links here rest ih => exact fun t ht => .up (ih t (resolve_up rest ▸ ht))
  | name links here s rest hi hu ih jump =>
    intro t ht
    rw [resolve_name hi hu] at ht
    split at ht
    · cases ht
    next hshort =>
      have hs : IsStep s := ⟨hi, hu, hshort⟩
      split at ht
      next hg =>
        split at ht <;> cases ht
        next hnil =>
          subst hnil
          exact .vacant hs hg
      next hg => exact .folder hs hg (ih t ht)
      next b hg =>
        split at ht <;> cases ht
        next hnil =>
          subst hnil
          exact .file hs hg
      next l hg =>
        split at ht
        next hlast =>
          obtain ⟨rfl, hfollow⟩ := hlast
          cases ht
          exact .kept hs hg hfollow
        next hlast =>
          have hfollow : follow = true ∨ rest ≠ [] := by
            cases follow <;> simp_all
          cases links with
          | zero => cases ht
          | succ m => exact .jump hs hg hfollow (jump m l rfl t ht)

theorem Arrives.resolve_eq (h : d.Arrives follow links here segments t) :
    d.resolve follow links here segments = .ok t := by
  induction h with
  | here => exact resolve_nil
  | idle hs _ ih => rwa [resolve_idle hs]
  | up _ ih => rwa [resolve_up]
  | folder hs hg _ ih => rwa [resolve_name hs.not_idle hs.ne_up, if_neg hs.short, hg]
  | file hs hg =>
    rw [resolve_name hs.not_idle hs.ne_up, if_neg hs.short, hg]
    exact if_pos rfl
  | vacant hs hg =>
    rw [resolve_name hs.not_idle hs.ne_up, if_neg hs.short, hg]
    exact if_pos rfl
  | kept hs hg hfollow =>
    rw [resolve_name hs.not_idle hs.ne_up, if_neg hs.short, hg]
    exact if_pos ⟨rfl, hfollow⟩
  | jump hs hg hlast _ ih =>
    rw [resolve_name hs.not_idle hs.ne_up, if_neg hs.short, hg]
    refine (if_neg ?_).trans ih
    rintro ⟨rfl, rfl⟩
    simp at hlast

theorem resolve_eq_ok_iff :
    d.resolve follow links here segments = .ok t ↔ d.Arrives follow links here segments t :=
  ⟨arrives_of_resolve links here segments t, Arrives.resolve_eq⟩

theorem Arrives.shows (htree : d.IsTree) (h : d.Arrives follow links here segments t)
    (hhere : d.get? here = some .folder) : d.Shows t := by
  induction h with
  | here => exact hhere
  | idle _ _ ih => exact ih hhere
  | up _ ih => exact ih (htree.folder_dropLast hhere)
  | folder _ hg _ ih => exact ih hg
  | file _ hg => exact hg
  | vacant _ hg => exact ⟨hg, by simpa using hhere⟩
  | kept _ hg => exact hg
  | @jump _ _ _ l _ _ _ _ _ _ ih => exact ih (get?_start l hhere)

/-- Where links are followed, no link is left at the end. -/
theorem Arrives.ne_link (h : d.Arrives true links here segments t) (p : Place) (l : String) :
    t ≠ .found p (.link l) := by
  induction h with
  | here | file | vacant => simp
  | kept _ _ hfollow => cases hfollow
  | idle _ _ ih | up _ ih | folder _ _ _ ih | jump _ _ _ _ ih => exact ih

/-- A path that ends at something else than a link ends there also when links are followed. -/
theorem Arrives.followed (h : d.Arrives false links here segments t)
    (hlink : ∀ p l, t ≠ .found p (.link l)) : d.Arrives true links here segments t := by
  induction h with
  | here links here => exact .here links here
  | idle hs _ ih => exact .idle hs (ih hlink)
  | up _ ih => exact .up (ih hlink)
  | folder hs hg _ ih => exact .folder hs hg (ih hlink)
  | file hs hg => exact .file hs hg
  | vacant hs hg => exact .vacant hs hg
  | kept => exact absurd rfl (hlink _ _)
  | jump hs hg _ _ ih => exact .jump hs hg (.inl rfl) (ih hlink)

/-- A last name can be followed whatever it stands for, if that is no link. -/
theorem IsStep.exists_arrives {s : Name} (hs : IsStep s)
    (hlink : ∀ l, d.get? (here ++ [s]) ≠ some (.link l)) :
    ∃ t, d.Arrives follow links here [s] t := by
  cases hg : d.get? (here ++ [s]) with
  | none => exact ⟨_, .vacant hs hg⟩
  | some e =>
    cases e with
    | folder => exact ⟨_, .folder hs hg (.here links _)⟩
    | file b => exact ⟨_, .file hs hg⟩
    | link l => exact absurd hg (hlink l)

/-- What can be followed can still be followed when folders and links stay. -/
theorem Keeps.arrives (hk : d.Keeps d') (h : d.Arrives true links here segments t) :
    ∃ t', d'.Arrives true links here segments t' := by
  induction h with
  | here links here => exact ⟨_, .here links here⟩
  | idle hs _ ih => exact ih.imp fun _ h' => .idle hs h'
  | up _ ih => exact ih.imp fun _ h' => .up h'
  | folder hs hg _ ih => exact ih.imp fun _ h' => .folder hs (hk.folder _ hg) h'
  | file hs hg => exact hs.exists_arrives fun l hl => by simp [(hk.link _ l).mp hl] at hg
  | vacant hs hg => exact hs.exists_arrives fun l hl => by simp [(hk.link _ l).mp hl] at hg
  | kept _ _ hfollow => cases hfollow
  | jump hs hg hlast _ ih => exact ih.imp fun _ h' => .jump hs ((hk.link _ _).mpr hg) hlast h'

end Arrives

/-! ## Routes -/

/-- The segments of a path that lead somewhere, as names. -/
def Place.names (path : String) : Place :=
  (Place.of path).filter (!·.isIdle)

namespace Place

theorem names_eq (path : String) : names path = (Path.names path).map .text := by
  rw [names, of, List.filter_map]
  rfl

@[simp] theorem names_empty : names "" = [] := by
  rw [names_eq, Path.names_empty, List.map_nil]

theorem names_of_isPlain {path : String} (h : Path.IsPlain path) : names path = of path := by
  rw [names_eq, h.names_eq, of]

theorem of_ne_nil (path : String) : of path ≠ [] := by
  simp [of, Path.segments_ne_nil]

theorem of_injective : Function.Injective of := fun _ _ h =>
  Path.segments_injective (List.map_injective_iff.mpr (fun _ _ hs => Name.text.inj hs) h)

theorem of_slash (a b : String) : of (a ++ "/" ++ b) = of a ++ of b := by
  rw [of, Path.segments_slash, List.map_append, ← of, ← of]

theorem names_join (base : String) {path : String} (h : Path.IsPlain path) :
    names (Path.join base path) = names base ++ of path := by
  rw [names_eq, Path.names_join base h, List.map_append, ← names_eq, of]

theorem ne_up_of_isPlain {path : String} (h : Path.IsPlain path) : ∀ s ∈ of path, s ≠ ".." := by
  intro s hs
  obtain ⟨t, ht, rfl⟩ := List.mem_map.mp hs
  exact fun hup => (h t ht).2 (Name.text.inj hup)

end Place

/-- The way from one place to another along names. A name that is missing is passed as if it were
there; only a folder that is there can be left upwards. A link at the end is passed only if
`follow`. -/
inductive Route (d : Disk) (follow : Bool) : Place → List Name → Place → Prop where
  | here (p : Place) : Route d follow p [] p
  | up {p q : Place} {rest : List Name} : d.get? p = some .folder →
      Route d follow p.dropLast rest q → Route d follow p (".." :: rest) q
  | name {p q : Place} {s : Name} {rest : List Name} : s ≠ ".." →
      (∀ t, d.get? (p ++ [s]) ≠ some (.link t)) → Route d follow (p ++ [s]) rest q →
      Route d follow p (s :: rest) q
  | link {p q : Place} {s : Name} {t : String} {rest : List Name} : s ≠ ".." →
      d.get? (p ++ [s]) = some (.link t) → (follow = true ∨ rest ≠ []) →
      Route d follow (start t p) (Place.names t ++ rest) q → Route d follow p (s :: rest) q

/-- The place that a path stands for. -/
def PointsTo (d : Disk) (path : String) (p : Place) : Prop :=
  d.Route true (start path d.home) (Place.names path) p

namespace Route

variable {d d' : Disk} {follow : Bool} {p q r : Place} {names : List Name}

theorem append {more : List Name} (h : d.Route true p names q) (g : d.Route follow q more r)
    (hne : more ≠ []) : d.Route follow p (names ++ more) r := by
  induction h with
  | here => exact g
  | up hp _ ih => exact .up hp (ih g)
  | name hs hl _ ih => exact .name hs hl (ih g)
  | link hs hl _ _ ih =>
    refine .link hs hl (.inr (by simp [hne])) ?_
    simpa using ih g

/-- Where there are no links, names lead straight down. -/
theorem straight (hplain : ∀ s ∈ names, s ≠ "..")
    (hlinks : ∀ q t, p <+: q → d.get? q ≠ some (.link t)) :
    d.Route follow p names (p ++ names) := by
  induction names generalizing p with
  | nil => simpa using Route.here p
  | cons s rest ih =>
    refine .name (hplain s (by simp)) (fun t => hlinks _ t (List.prefix_append p [s])) ?_
    have hrest := ih (p := p ++ [s]) (fun x hx => hplain x (by simp [hx]))
      (fun q t hq => hlinks q t ((List.prefix_append p [s]).trans hq))
    simpa using hrest

theorem keeps (h : d.Route follow p names q) (hk : d.Keeps d') : d'.Route follow p names q := by
  induction h with
  | here p => exact .here p
  | up hp _ ih => exact .up (hk.folder _ hp) ih
  | name hs hl _ ih => exact .name hs (fun t ht => hl t ((hk.link _ t).mp ht)) ih
  | link hs hl hf _ ih => exact .link hs ((hk.link _ _).mpr hl) hf ih

/-- From a place that is not a folder a route can only lead further down. -/
theorem isPrefix_of_not_folder (ht : d.IsTree) (h : d.Route follow p names q)
    (hp : d.get? p ≠ some .folder) : p <+: q := by
  induction h with
  | here => exact List.prefix_rfl
  | up hf => exact absurd hf hp
  | @name p q s rest hs hl _ ih =>
    have hps : d.get? (p ++ [s]) ≠ some .folder := fun hf => hp (ht.parent _ _ _ hf)
    exact (List.prefix_append p [s]).trans (ih hps)
  | link hs hl => exact absurd (ht.parent _ _ _ hl) hp

end Route

/-! ## Following a route -/

section Follow

variable {d d' : Disk} {follow : Bool}

/-- The names of the segments, the first of which is one. -/
theorem filter_name {s : Name} (hi : s.isIdle = false) (rest : List Name) :
    (s :: rest).filter (!·.isIdle) = s :: rest.filter (!·.isIdle) := by
  simp [hi]

theorem filter_idle {s : Name} (hi : s.isIdle = true) (rest : List Name) :
    (s :: rest).filter (!·.isIdle) = rest.filter (!·.isIdle) := by
  simp [hi]

theorem filter_link (t : String) (rest : List Name) :
    (Place.of t ++ rest).filter (!·.isIdle) =
      Place.names t ++ rest.filter (!·.isIdle) := by
  rw [List.filter_append, Place.names]

theorem Route.of_not_link {p q : Place} {s : Name} {rest : List Name} (hu : s ≠ "..")
    (h : d.Route follow p (s :: rest) q) (hl : ∀ t, d.get? (p ++ [s]) ≠ some (.link t)) :
    d.Route follow (p ++ [s]) rest q := by
  cases h with
  | up => exact absurd rfl hu
  | name _ _ g => exact g
  | link _ hg => exact absurd hg (hl _)

theorem Route.of_link {p q : Place} {s : Name} {t : String} {rest : List Name} (hu : s ≠ "..")
    (h : d.Route follow p (s :: rest) q) (hl : d.get? (p ++ [s]) = some (.link t)) :
    (follow = true ∨ rest ≠ []) ∧ d.Route follow (start t p) (Place.names t ++ rest) q := by
  cases h with
  | up => exact absurd rfl hu
  | name _ hn => exact absurd hl (hn _)
  | link _ hg hf g =>
    obtain rfl : _ = t := by simpa [hg] using hl
    exact ⟨hf, g⟩

theorem Route.of_up {p q : Place} {rest : List Name} (h : d.Route follow p (".." :: rest) q) :
    d.Route follow p.dropLast rest q := by
  cases h with
  | up _ g => exact g
  | name hu => exact absurd rfl hu
  | link hu => exact absurd rfl hu

/-- A route has one end. -/
theorem Route.unique {p q q' : Place} {names : List Name} (h : d.Route follow p names q)
    (h' : d.Route follow p names q') : q' = q := by
  induction h with
  | here p =>
    cases h'
    rfl
  | up _ _ ih => exact ih h'.of_up
  | name hs hl _ ih => exact ih (h'.of_not_link hs hl)
  | link hs hl _ _ ih => exact ih (h'.of_link hs hl).2

theorem PointsTo.unique {path : String} {p q : Place} (h : d.PointsTo path p)
    (h' : d.PointsTo path q) : q = p :=
  Route.unique h h'

theorem PointsTo.keeps {path : String} {p : Place} (h : d.PointsTo path p) (hk : d.Keeps d') :
    d'.PointsTo path p := by
  rw [PointsTo, hk.home]
  exact Route.keeps h hk

/-- Following segments ends at the end of their route. -/
theorem Route.place_eq {links : Nat} {here p : Place} {segments : List Name} {t : Target}
    (hr : d.Route follow here (segments.filter (!·.isIdle)) p)
    (h : d.Arrives follow links here segments t) : t.place = p := by
  induction h with
  | here =>
    cases hr
    rfl
  | idle hs _ ih => exact ih (filter_idle hs _ ▸ hr)
  | up _ ih =>
    rw [filter_name (by decide)] at hr
    exact ih hr.of_up
  | folder hs hg _ ih =>
    rw [filter_name hs.not_idle] at hr
    exact ih (hr.of_not_link hs.ne_up (by simp [hg]))
  | file hs hg =>
    rw [filter_name hs.not_idle] at hr
    cases hr.of_not_link hs.ne_up (by simp [hg])
    rfl
  | vacant hs hg =>
    rw [filter_name hs.not_idle] at hr
    cases hr.of_not_link hs.ne_up (by simp [hg])
    rfl
  | kept hs hg hfollow =>
    -- a link at the end has no route unless it is followed
    rw [filter_name hs.not_idle] at hr
    have hlast := (hr.of_link hs.ne_up hg).1
    simp [hfollow] at hlast
  | jump hs hg _ _ ih =>
    rw [filter_name hs.not_idle] at hr
    exact ih (filter_link _ _ ▸ (hr.of_link hs.ne_up hg).2)

/-- Where the way is missing there is nothing at its end. -/
theorem Route.resolve_noEntry (htree : d.IsTree) (links : Nat) (here : Place)
    (segments : List Name) :
    ∀ p, d.Route follow here (segments.filter (!·.isIdle)) p →
      d.resolve follow links here segments = .error .noEntry → d.get? p = none := by
  induction links, here, segments using resolve_induction with
  | nil links here =>
    intro p _ ht
    rw [resolve_nil] at ht
    cases ht
  | idle links here s rest hs ih =>
    intro p hr ht
    exact ih p (filter_idle hs rest ▸ hr) (resolve_idle hs rest ▸ ht)
  | up links here rest ih =>
    intro p hr ht
    rw [filter_name (by decide)] at hr
    exact ih p hr.of_up (resolve_up rest ▸ ht)
  | name links here s rest hi hu ih jump =>
    intro p hr ht
    rw [filter_name hi] at hr
    rw [resolve_name hi hu] at ht
    split at ht
    · cases ht
    · split at ht
      next hg =>
        have hr := hr.of_not_link hu (by simp [hg])
        exact htree.nothing_at_or_below hg (hr.isPrefix_of_not_folder htree (by simp [hg]))
      next hg => exact ih p (hr.of_not_link hu (by simp [hg])) ht
      next b hg => split at ht <;> cases ht
      next l hg =>
        obtain ⟨hf, hr⟩ := hr.of_link hu hg
        rw [if_neg (by rintro ⟨rfl, rfl⟩; simp at hf)] at ht
        cases links with
        | zero => cases ht
        | succ m => exact jump m l rfl p (filter_link l rest ▸ hr) ht

/-- Segments that can be followed have a route. -/
theorem Arrives.route (htree : d.IsTree) {links : Nat} {here : Place} {segments : List Name}
    {t : Target} (h : d.Arrives true links here segments t) (hhere : d.get? here = some .folder) :
    d.Route true here (segments.filter (!·.isIdle)) t.place := by
  induction h with
  | here links here => exact .here here
  | idle hs _ ih =>
    rw [filter_idle hs]
    exact ih hhere
  | up _ ih =>
    rw [filter_name (by decide)]
    exact .up hhere (ih (htree.folder_dropLast hhere))
  | folder hs hg _ ih =>
    rw [filter_name hs.not_idle]
    exact .name hs.ne_up (by simp [hg]) (ih hg)
  | file hs hg =>
    rw [filter_name hs.not_idle]
    exact .name hs.ne_up (by simp [hg]) (.here _)
  | vacant hs hg =>
    rw [filter_name hs.not_idle]
    exact .name hs.ne_up (by simp [hg]) (.here _)
  | kept _ _ hfollow => cases hfollow
  | @jump _ _ _ l _ _ hs hg hlast _ ih =>
    rw [filter_name hs.not_idle]
    exact .link hs.ne_up hg (.inl rfl) (filter_link l _ ▸ ih (get?_start l hhere))

end Follow

end Codemod.Disk
