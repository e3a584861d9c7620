import Codemod.Proofs.Overlay.View
import Codemod.Proofs.Updater
import Codemod.Session

/-!
# The course of a run

The turns of a run, one after the other, with what each of them does to the project: the edits that
plugins make through their host while the turn lasts, and the content that is put into the overlay
when it is over. All that a run does to its overlay is in the edits of its course.

A plugin that edits the file whose turn it is has its edit overwritten at the end of the turn, since
what is put into the overlay then was computed from the content before. No other edit is lost: a
file is handed over with all that earlier turns have made of it.

## Main definitions

* `Script.edits`, `Updater.edits`, `Pass.edits` — the edits that plugins make.
* `Turn` — one turn, and what is left in the middle and at the end of it.
* `course`, `Session.course` — the turns of a run.

## Main results

* `Pass.overlay_begin` — the edits of plugins are all that the first half of a turn does.
* `overlay_turns`, `Session.overlay_update` — the course of a run leads to what the run leaves.
* `Session.merge_of_current_source` — what a merge overwrites.
-/

namespace Codemod

namespace Overlay

theorem editAll_editAll (o : Overlay) (es fs : List Edit) :
    (o.editAll es).editAll fs = o.editAll (es ++ fs) := by
  simp [editAll]

/-- Edits of other paths are not noticed. -/
theorem read?_editAll_of_ne (o : Overlay) {es : List Edit} {path : String}
    (h : ∀ e ∈ es, e.target ≠ Path.normalize path) : (o.editAll es).read? path = o.read? path := by
  induction es generalizing o with
  | nil => rfl
  | cons e es ih =>
    rw [List.forall_mem_cons] at h
    have hone : (o.edit e).read? path = o.read? path := by
      rw [edit_eq_add]
      exact current?_add_of_ne o e.path e.content h.1
    exact (ih (o.edit e) h.2).trans hone

end Overlay

/-! ## The edits of plugins -/

namespace Script

/-- The edits that a script makes, run on a host. -/
def edits : Script α → Host → List Edit
  | done _, _ => []
  | contains p next, h => (next (h.overlay.contains p)).edits h
  | list p r next, h => (next (h.overlay.list p r)).edits h
  | read p next, h => (next (h.overlay.read? p)).edits h
  | add p c next, h => .add p c :: next.edits { h with overlay := h.overlay.add p c }
  | delete p next, h => .delete p :: next.edits { h with overlay := h.overlay.delete p }
  | cancel b next, h => next.edits { h with canceled := b }
  | note v next, h => next.edits { h with notes := h.notes ++ [v] }

theorem overlay_run (s : Script α) (h : Host) :
    (s.run h).2.overlay = h.overlay.editAll (s.edits h) := by
  induction s generalizing h with
  | done a => rfl
  | contains p next ih => exact ih _ h
  | list p r next ih => exact ih _ h
  | read p next ih => exact ih _ h
  | add p c next ih => exact ih _
  | delete p next ih => exact ih _
  | cancel b next ih => exact ih _
  | note v next ih => exact ih _

end Script

/-- The edits that plugins make, one after the other, until one of them fails or deletes the
document. -/
def pluginEdits (path : String) : List (Plugin N) → N → Host → List Edit
  | [], _, _ => []
  | p :: rest, node, h =>
    (p node path).edits h ++
      match (p node path).run h with
      | (.ok .unchanged, h) => pluginEdits path rest node h
      | (.ok (.replace next), h) => pluginEdits path rest next h
      | _ => []

theorem overlay_runPlugins (path : String) (index : Nat) (plugins : List (Plugin N)) (node : N)
    (h : Host) :
    (runPlugins path index plugins node h).2.overlay =
      h.overlay.editAll (pluginEdits path plugins node h) := by
  induction plugins generalizing index node h with
  | nil => rfl
  | cons p rest ih =>
    have hrun := (p node path).overlay_run h
    rw [runPlugins, pluginEdits, ← Overlay.editAll_editAll, ← hrun]
    rcases (p node path).run h with ⟨f | (_ | next | _), h'⟩
    · rfl
    · exact ih _ _ _
    · exact ih _ _ _
    · rfl

/-- The edits that the plugins of an updater make for a document. -/
def Updater.edits (u : Updater) (path src : String) (h : Host) : List Edit :=
  match (u.prepare path src).1 with
  | .error _ => []
  | .ok (_, node) => pluginEdits path u.plugins node h

theorem Updater.overlay_update (u : Updater) (path src : String) (h : Host) :
    (u.update path src h).2.2.overlay = h.overlay.editAll (u.edits path src h) := by
  rw [update, edits]
  rcases u.prepare path src with ⟨f | ⟨roundTrip, node⟩, format⟩
  · rfl
  · have hrun := overlay_runPlugins path 0 u.plugins node h
    dsimp only
    rw [← hrun]
    rcases runPlugins path 0 u.plugins node h with ⟨f | (result | _), h'⟩
    · rfl
    · dsimp only
      cases format.serialize u.writer path result <;> rfl
    · rfl

/-- The edits that are made for a document by the first updater that claims its path. -/
def dispatchEdits (path src : String) (updaters : List Updater) (h : Host) : List Edit :=
  match updaters.find? (·.supports path) with
  | none => []
  | some u => u.edits path src h

theorem dispatchEdits_of_dispatch_eq_none {path src : String} {updaters : List Updater} {h : Host}
    (hd : dispatch path src updaters h = none) : dispatchEdits path src updaters h = [] := by
  induction updaters with
  | nil => rfl
  | cons u rest ih =>
    rw [dispatch] at hd
    split at hd
    · cases hd
    next hu =>
      rw [dispatchEdits, List.find?_cons, eq_false_of_ne_true hu]
      exact ih (Option.map_eq_none_iff.mp hd)

/-- A document is handed to the first updater that claims its path. -/
theorem exists_updater_of_dispatch {path src : String} {updaters updaters' : List Updater}
    {h h' : Host} {r : Except Failure String}
    (hd : dispatch path src updaters h = some (r, updaters', h')) :
    ∃ u, updaters.find? (·.supports path) = some u ∧ (u.update path src h).1 = r ∧
      (u.update path src h).2.2 = h' := by
  induction updaters generalizing updaters' with
  | nil => cases hd
  | cons u rest ih =>
    rw [dispatch] at hd
    rw [List.find?_cons]
    split at hd
    next hu =>
      cases hd
      rw [hu]
      exact ⟨u, rfl, rfl, rfl⟩
    next hu =>
      obtain ⟨⟨r, us, h'⟩, hrest, heq⟩ := Option.map_eq_some_iff.mp hd
      cases heq
      rw [eq_false_of_ne_true hu]
      exact ih hrest

theorem overlay_dispatch {path src : String} {updaters updaters' : List Updater} {h h' : Host}
    {r : Except Failure String} (hd : dispatch path src updaters h = some (r, updaters', h')) :
    h'.overlay = h.overlay.editAll (dispatchEdits path src updaters h) := by
  obtain ⟨u, hu, -, rfl⟩ := exists_updater_of_dispatch hd
  rw [dispatchEdits, hu]
  exact u.overlay_update path src h

/-! ## The first half of a turn -/

namespace Pass

/-- The edits that plugins make in the turn of a file. -/
def edits (p : Pass) (f : ProjectFile) : List Edit :=
  match f.binary, p.overlay.read? f.path with
  | false, some src => dispatchEdits f.path src p.updaters p.host
  | _, _ => []

/-- The content is what the first updater that claims the path makes of `src`, or `src` itself where
no updater claims it. -/
def Computes (p : Pass) (path src content : String) : Prop :=
  (dispatch path src p.updaters p.host = none ∧ content = src) ∨
    ∃ updaters host, dispatch path src p.updaters p.host = some (.ok content, updaters, host)

variable (p : Pass) (onError : OnError) (signals : Signals) (i : Nat) (f : ProjectFile)

@[simp] theorem overlay_signal (flag : Option Bool) : (p.signal flag).overlay = p.overlay := by
  cases flag <;> rfl

theorem overlay_begin :
    (p.begin onError signals i f).2.overlay = p.overlay.editAll (p.edits f) := by
  rw [begin, edits, overlay_signal]
  cases f.binary with
  | true => rfl
  | false =>
    rw [if_neg Bool.false_ne_true, transform]
    cases p.overlay.read? f.path with
    | none => rfl
    | some src =>
      dsimp only
      split
      next hd => rw [dispatchEdits_of_dispatch_eq_none hd]; rfl
      next hd => exact overlay_dispatch hd
      next hd => cases onError <;> exact overlay_dispatch hd

variable {p f}

/-- A content that comes of the first half has been computed from the one that the overlay had. -/
theorem computes_of_begin {content : String}
    (h : (p.begin onError signals i f).1 = .ok (some content)) :
    ∃ src, p.overlay.read? f.path = some src ∧ p.Computes f.path src content := by
  rw [begin] at h
  cases hb : f.binary with
  | true => simp [hb] at h
  | false =>
    rw [hb, if_neg Bool.false_ne_true, transform] at h
    cases hsrc : p.overlay.read? f.path with
    | none => simp [hsrc] at h
    | some src =>
      refine ⟨src, rfl, ?_⟩
      simp only [hsrc] at h
      split at h
      next hd =>
        cases h
        exact .inl ⟨hd, rfl⟩
      next updaters host hd =>
        cases h
        exact .inr ⟨updaters, host, hd⟩
      next => cases onError <;> cases h

end Pass

/-! ## Turns -/

/-- The turn of a file in a run. -/
structure Turn where
  /-- How many files had their turn before. -/
  index : Nat
  file : ProjectFile
  /-- As the turn finds things. -/
  start : Pass
  /-- What comes of the file. -/
  result : Except Failure (Option String)
  /-- As things are when it is decided whether the run goes on. -/
  halfway : Pass

namespace Turn

/-- The turn whose first half is taken by `Pass.begin`. -/
def begin (onError : OnError) (signals : Signals) (i : Nat) (f : ProjectFile) (p : Pass) : Turn :=
  { index := i
    file := f
    start := p
    result := (p.begin onError signals i f).1
    halfway := (p.begin onError signals i f).2 }

/-- Whether the turn is completed, and the run goes on. -/
def isCompleted (t : Turn) : Bool :=
  match t.result with
  | .error _ => false
  | .ok _ => !t.halfway.host.canceled

/-- The content that is put into the overlay at the end of the turn. -/
def merged? (t : Turn) : Option String :=
  match t.result with
  | .error _ => none
  | .ok content => if t.halfway.host.canceled then none else content

/-- As the turn leaves things. -/
def stop (t : Turn) : Pass :=
  t.halfway.merge t.file.path t.merged?

/-- The edits that plugins make during the turn. -/
def edits (t : Turn) : List Edit :=
  t.start.edits t.file

/-- All edits of the turn: those of plugins, then the merge. -/
def allEdits (t : Turn) : List Edit :=
  t.edits ++ (t.merged?.map (Edit.add t.file.path)).toList

end Turn

/-- The turns of files as `turns` takes them, up to and including the first that is not
completed. -/
def course (onError : OnError) (signals : Signals) :
    (i : Nat) → List ProjectFile → Pass → List Turn
  | _, [], _ => []
  | i, f :: rest, p =>
    let t := Turn.begin onError signals i f p
    t :: if t.isCompleted then course onError signals (i + 1) rest t.stop else []

section Course

variable (onError : OnError) (signals : Signals) (i : Nat) (files : List ProjectFile) (p : Pass)

theorem overlay_merge (path : String) (content : Option String) :
    (p.merge path content).overlay =
      p.overlay.editAll (content.map (Edit.add path)).toList := by
  cases content <;> rfl

theorem Turn.overlay_halfway (f : ProjectFile) :
    (Turn.begin onError signals i f p).halfway.overlay =
      p.overlay.editAll (Turn.begin onError signals i f p).edits :=
  p.overlay_begin onError signals i f

theorem Turn.overlay_stop (f : ProjectFile) :
    (Turn.begin onError signals i f p).stop.overlay =
      p.overlay.editAll (Turn.begin onError signals i f p).allEdits := by
  rw [stop, overlay_merge, overlay_halfway, Overlay.editAll_editAll, allEdits]

/-- Why the turns end with this one, unless the run goes on. -/
def Turn.ending (t : Turn) : Ending :=
  match t.result with
  | .error f => .failed f
  | .ok _ => .canceled

variable {onError signals i files p}

/-- A turn that is completed is announced, and the turns of the other files follow. -/
theorem turns_of_completed (total : Nat) {f : ProjectFile} (rest : List ProjectFile) {t : Turn}
    (ht : t = .begin onError signals i f p) (h : t.isCompleted = true) :
    turns onError signals total i (f :: rest) p =
      (turnEvent i total f.path :: (turns onError signals total (i + 1) rest t.stop).1,
        (turns onError signals total (i + 1) rest t.stop).2) := by
  have hbegin : p.begin onError signals i f = (t.result, t.halfway) := by rw [ht]; rfl
  have hfile : t.file = f := by rw [ht]; rfl
  rw [turns, hbegin, Turn.stop, Turn.merged?, hfile]
  rw [Turn.isCompleted] at h
  cases hr : t.result with
  | error e => simp [hr] at h
  | ok content =>
    have hgoes : t.halfway.host.canceled = false := by simpa [hr] using h
    simp [hgoes]

/-- A turn that is not completed is the last. -/
theorem turns_of_not_completed (total : Nat) {f : ProjectFile} (rest : List ProjectFile) {t : Turn}
    (ht : t = .begin onError signals i f p) (h : t.isCompleted = false) :
    turns onError signals total i (f :: rest) p = ([], t.stop, t.ending) := by
  have hbegin : p.begin onError signals i f = (t.result, t.halfway) := by rw [ht]; rfl
  rw [turns, hbegin, Turn.stop, Turn.merged?, Turn.ending]
  rw [Turn.isCompleted] at h
  cases hr : t.result with
  | error e => rfl
  | ok content =>
    have hcanceled : t.halfway.host.canceled = true := by simpa [hr] using h
    simp [hcanceled, Pass.merge]

variable (onError signals i files p)

/-- All that the turns do to the overlay is in the edits of their course. -/
theorem overlay_turns (total : Nat) :
    (turns onError signals total i files p).2.1.overlay =
      p.overlay.editAll ((course onError signals i files p).flatMap Turn.allEdits) := by
  induction files generalizing i p with
  | nil => rfl
  | cons f rest ih =>
    have hstop := Turn.overlay_stop onError signals i p f
    rw [course]
    cases h : (Turn.begin onError signals i f p).isCompleted with
    | true =>
      rw [turns_of_completed total rest rfl h, List.flatMap_cons, ← Overlay.editAll_editAll,
        ← hstop]
      exact ih (i + 1) _
    | false =>
      rw [turns_of_not_completed total rest rfl h, hstop]
      simp

variable {onError signals i files p}

/-- Every turn finds what the edits of all turns before it have left. -/
theorem start_of_course {before later : List Turn} {t : Turn}
    (h : course onError signals i files p = before ++ t :: later) :
    t = .begin onError signals t.index t.file t.start ∧
      t.start.overlay = p.overlay.editAll (before.flatMap Turn.allEdits) := by
  induction files generalizing i p before with
  | nil => simp [course] at h
  | cons f rest ih =>
    rw [course] at h
    cases before with
    | nil =>
      obtain ⟨rfl, -⟩ := List.cons.inj h
      exact ⟨rfl, rfl⟩
    | cons u before =>
      obtain ⟨rfl, hrest⟩ := List.cons.inj h
      split at hrest
      · obtain ⟨ht, hstart⟩ := ih hrest
        refine ⟨ht, ?_⟩
        rw [hstart, Turn.overlay_stop, Overlay.editAll_editAll, List.flatMap_cons]
      · simp at hrest

end Course

namespace Turn

theorem result_of_merged? {t : Turn} {content : String} (h : t.merged? = some content) :
    t.result = .ok (some content) := by
  rw [merged?] at h
  split at h
  · cases h
  next hr =>
    split at h
    · cases h
    · rw [hr, h]

/-- What is put into the overlay was computed from the content that the turn has found there. That
content is still there if no plugin has edited the file during the turn. -/
theorem merged_from_source {onError : OnError} {signals : Signals} {t : Turn}
    (ht : t = .begin onError signals t.index t.file t.start) {content : String}
    (h : t.merged? = some content) :
    ∃ src, t.start.overlay.read? t.file.path = some src ∧
      t.start.Computes t.file.path src content ∧
      ((∀ e ∈ t.edits, e.target ≠ Path.normalize t.file.path) →
        t.halfway.overlay.read? t.file.path = some src) := by
  have hresult := result_of_merged? h
  have hhalfway := overlay_halfway onError signals t.index t.start t.file
  rw [← ht] at hhalfway
  rw [ht] at hresult
  obtain ⟨src, hsrc, hcomputes⟩ := Pass.computes_of_begin onError signals t.index hresult
  refine ⟨src, hsrc, hcomputes, fun hedits => ?_⟩
  rw [hhalfway, Overlay.read?_editAll_of_ne _ hedits, hsrc]

end Turn

/-! ## Runs -/

/-- The file is as it is read at its path. -/
def Disk.Loads (d : Disk) (root : String) (f : ProjectFile) : Prop :=
  ∃ b, d.read (Path.join root f.path) = .ok b ∧ f = .ofBytes f.path b

namespace Session

@[simp] theorem root_reset (s : Session) : s.reset.root = s.root := rfl

@[simp] theorem skipDirs_reset (s : Session) : s.reset.skipDirs = s.skipDirs := rfl

/-- The snapshot that a run takes, or why there is none. -/
def snapshot (s : Session) (d : Disk) : Except Failure Overlay :=
  if d.isFolder s.root then (d.walk s.root s.skipDirs).bind (readAll d s.reset.overlay)
  else .error (.notADirectory s.root)

theorem readAll_ok {d : Disk} {o o' : Overlay} {paths : List String}
    (h : readAll d o paths = .ok o') :
    ∃ files : List ProjectFile, files.map (·.path) = paths ∧ (∀ f ∈ files, d.Loads o.root f) ∧
      o' = files.foldl Overlay.insert o := by
  fun_induction readAll d o paths with
  | case1 o =>
    cases h
    exact ⟨[], rfl, by simp, rfl⟩
  | case2 => cases h
  | case3 o path rest place b hb ih =>
    obtain ⟨files, hpaths, hloads, rfl⟩ := ih h
    have hpath : (ProjectFile.ofBytes path b).path = path := by
      rw [ProjectFile.ofBytes]
      split <;> rfl
    have hfirst : d.Loads o.root (.ofBytes path b) := ⟨b, by rwa [hpath], by rw [hpath]⟩
    exact ⟨.ofBytes path b :: files, congrArg₂ List.cons hpath hpaths,
      List.forall_mem_cons.mpr ⟨hfirst, hloads⟩, rfl⟩

/-- A snapshot is made of the files that a walk finds, as they are on disk. -/
theorem exists_loads_of_snapshot {s : Session} {d : Disk} {o : Overlay}
    (h : s.snapshot d = .ok o) :
    ∃ files : List ProjectFile, d.walk s.root s.skipDirs = .ok (files.map (·.path)) ∧
      (∀ f ∈ files, d.Loads s.root f) ∧ o = Overlay.ofFiles s.root files := by
  rw [snapshot] at h
  split at h
  · cases hwalk : d.walk s.root s.skipDirs with
    | error f => simp [hwalk, Except.bind] at h
    | ok paths =>
      rw [hwalk] at h
      obtain ⟨files, hpaths, hloads, rfl⟩ := readAll_ok h
      exact ⟨files, by rw [hpaths], hloads, rfl⟩
  · cases h

theorem snapshot_ok {s : Session} {d : Disk} {o : Overlay} (h : s.snapshot d = .ok o) :
    ∃ files : List ProjectFile, d.walk s.root s.skipDirs = .ok (files.map (·.path)) ∧
      o = Overlay.ofFiles s.root files := by
  obtain ⟨files, hwalk, -, ho⟩ := exists_loads_of_snapshot h
  exact ⟨files, hwalk, ho⟩

/-- What the first turn finds, given the snapshot. -/
def firstPass (s : Session) (o : Overlay) : Pass :=
  { updaters := s.reset.updaters, host := { overlay := o } }

/-- The session as the last turn leaves it. -/
def after (s : Session) (p : Pass) : Session :=
  { s.reset with
    updaters := p.updaters
    overlay := p.overlay
    canceled := p.host.canceled
    skipped := p.skipped }

/-- The turns of a run. -/
def course (s : Session) (d : Disk) (signals : Signals) : List Turn :=
  match s.snapshot d with
  | .error _ => []
  | .ok o => Codemod.course s.onError signals 0 o.files (s.firstPass o)

/-- A run takes no turn if there is no snapshot, and otherwise ends as its turns do. -/
theorem update_cases (s : Session) (d : Disk) (signals : Signals) :
    (d.isFolder s.root = false ∧ s.update d signals =
      { session := { s.reset with state := .errored }
        events := [phase (Failure.notADirectory s.root).message] }) ∨
    (d.isFolder s.root = true ∧ ∃ f events, s.snapshot d = .error f ∧
      (events = [phase "Initializing..."] ∨
        events = [phase "Initializing...", phase "Reading files..."]) ∧
      s.update d signals = s.reset.fail events [] f) ∨
    (d.isFolder s.root = true ∧ ∃ o done p ending, s.snapshot d = .ok o ∧
      turns s.onError signals o.files.length 0 o.files (s.firstPass o) = (done, p, ending) ∧
      s.update d signals =
        let begun :=
          [phase "Initializing...", phase "Reading files...", phase "Updating files..."] ++ done
        match ending with
        | .failed f => (s.after p).fail begun p.host.notes f
        | .canceled =>
          { session := { s.after p with state := .canceled }
            events := begun ++ p.overlay.events ++ [phase "Update canceled."]
            notes := p.host.notes }
        | .finished =>
          { session := { s.after p with state := .finished }
            events := begun ++ p.overlay.events ++ [.query Event.finished "Update finished."]
            notes := p.host.notes }) := by
  rw [update, snapshot, root_reset, skipDirs_reset]
  cases hfolder : d.isFolder s.root with
  | false => exact .inl ⟨rfl, rfl⟩
  | true =>
    refine .inr ?_
    dsimp only [if_true]
    cases d.walk s.root s.skipDirs with
    | error f => exact .inl ⟨rfl, f, _, rfl, .inl rfl, rfl⟩
    | ok paths =>
      dsimp only [Except.bind]
      cases readAll d s.reset.overlay paths with
      | error f => exact .inl ⟨rfl, f, _, rfl, .inr rfl, rfl⟩
      | ok o =>
        exact .inr ⟨rfl, o, _, _, _, rfl, rfl, rfl⟩

/-- The overlay that a run leaves is its snapshot with the edits of its course, unless the run has
failed. -/
theorem overlay_update {s : Session} {d : Disk} {signals : Signals} {o : Overlay}
    (ho : s.snapshot d = .ok o) (hstate : (s.update d signals).session.state ≠ .errored) :
    (s.update d signals).session.overlay =
      o.editAll ((s.course d signals).flatMap Turn.allEdits) := by
  have hoverlay := overlay_turns s.onError signals 0 o.files (s.firstPass o) o.files.length
  rw [course, ho]
  refine Eq.trans ?_ hoverlay
  obtain ⟨-, hupdate⟩ | ⟨-, f, events, -, -, hupdate⟩ |
    ⟨-, o', done, p, ending, ho', hturns, hupdate⟩ := s.update_cases d signals
  · exact absurd (congrArg (·.session.state) hupdate) hstate
  · exact absurd (congrArg (·.session.state) hupdate) hstate
  · obtain rfl : o = o' := Except.ok.inj (ho.symm.trans ho')
    rw [hturns]
    cases ending with
    | failed f => exact absurd (congrArg (·.session.state) hupdate) hstate
    | canceled => exact congrArg (·.session.overlay) hupdate
    | finished => exact congrArg (·.session.overlay) hupdate

/-- A run that does not fail leaves the snapshot with the edits of its course. Whenever a content is
put into the overlay at the end of a turn, it was computed from the content that the file had in the
snapshot with the edits of all earlier turns, whoever made them; and that content is still there,
unless a plugin has edited the very file whose turn it is during that turn. -/
theorem merge_of_current_source {s : Session} {d : Disk} {signals : Signals} {o : Overlay}
    (ho : s.snapshot d = .ok o) :
    ((s.update d signals).session.state ≠ .errored →
      (s.update d signals).session.overlay =
        o.editAll ((s.course d signals).flatMap Turn.allEdits)) ∧
    ∀ before t later content, s.course d signals = before ++ t :: later →
      t.merged? = some content →
      ∃ src, (o.editAll (before.flatMap Turn.allEdits)).read? t.file.path = some src ∧
        t.start.Computes t.file.path src content ∧
        t.halfway.overlay = o.editAll (before.flatMap Turn.allEdits ++ t.edits) ∧
        ((∀ e ∈ t.edits, e.target ≠ Path.normalize t.file.path) →
          t.halfway.overlay.read? t.file.path = some src) := by
  refine ⟨overlay_update ho, fun before t later content hcourse hmerged => ?_⟩
  rw [course, ho] at hcourse
  obtain ⟨ht, hstart⟩ := start_of_course hcourse
  obtain ⟨src, hsrc, hcomputes, hsame⟩ := Turn.merged_from_source ht hmerged
  have hhalfway := Turn.overlay_halfway s.onError signals t.index t.start t.file
  rw [← ht, hstart, Overlay.editAll_editAll] at hhalfway
  rw [hstart] at hsrc
  exact ⟨src, hsrc, hcomputes, hhalfway, hsame⟩

end Session

namespace Sample

/-- Gives another content to `target` in the turn of `source`, and leaves every document as it
is. -/
def editor (source target : String) : Plugin N :=
  fun _ path =>
    if path = source then .add target "y\n" (.done (.ok .unchanged)) else .done (.ok .unchanged)

def editing (source target : String) : Session :=
  { updaters := [{ kind := .text, format := .text, plugins := [editor source target] }]
    overlay := { root := "proj" } }

/-- A project of files with the same content. -/
def texts (names : List String) : Disk :=
  { entries := (["proj"], .folder) ::
      names.map fun (name : String) => (["proj", name], .file (Bytes.ofText "x\n")) }

theorem walk_texts :
    (texts ["a.txt", "b.txt"]).walk "proj" ["node_modules"] = .ok ["a.txt", "b.txt"] := by
  have hplace : (texts ["a.txt", "b.txt"]).lookUp true "proj" = .ok (.found ["proj"] .folder) := rfl
  have hsorted : [("a.txt" : Disk.Name), "b.txt"].mergeSort
      (fun a b => decide (a.bytes ≤ b.bytes)) = ["a.txt", "b.txt"] :=
    List.mergeSort_of_pairwise (by decide +kernel)
  have hnames : (texts ["a.txt", "b.txt"]).names "proj" = .ok ["a.txt", "b.txt"] := by
    rw [Disk.names, hplace]
    exact congrArg Except.ok hsorted
  rw [Disk.walk, Disk.pathLimit, Disk.walkFrom, hnames]
  decide +kernel

def snapshot : Overlay :=
  { root := "proj", files := [⟨"a.txt", "x\n", false⟩, ⟨"b.txt", "x\n", false⟩] }

theorem snapshot_editing :
    (editing "a.txt" "b.txt").snapshot (texts ["a.txt", "b.txt"]) = .ok snapshot := by
  have hwalk : (texts ["a.txt", "b.txt"]).walk (editing "a.txt" "b.txt").root
      (editing "a.txt" "b.txt").skipDirs = .ok ["a.txt", "b.txt"] := walk_texts
  rw [Session.snapshot, hwalk]
  rfl

end Sample

/-- The turn of the first file edits the second. The second is handed over as it is by then, and its
merge finds that content still there. -/
theorem Session.merge_of_current_source_edited :
    ∃ first t, (Sample.editing "a.txt" "b.txt").course (Sample.texts ["a.txt", "b.txt"]) .none =
        [first, t] ∧ t.file.path = "b.txt" ∧ t.merged? = some "y\n" ∧ ∃ src,
      (Sample.snapshot.editAll first.allEdits).read? "b.txt" = some src ∧
      t.start.Computes "b.txt" src "y\n" ∧ t.halfway.overlay.read? "b.txt" = some src := by
  let first := Turn.begin .abort .none 0 ⟨"a.txt", "x\n", false⟩
    ((Sample.editing "a.txt" "b.txt").firstPass Sample.snapshot)
  let t := Turn.begin .abort .none 1 ⟨"b.txt", "x\n", false⟩ first.stop
  obtain ⟨hfirst, hlast, hmerged, hedits⟩ : first.isCompleted = true ∧ t.isCompleted = true ∧
      t.merged? = some "y\n" ∧ t.edits.length = 0 := by
    decide +kernel
  have hcourse : (Sample.editing "a.txt" "b.txt").course (Sample.texts ["a.txt", "b.txt"]) .none =
      [first] ++ t :: [] := by
    rw [course, Sample.snapshot_editing]
    change first :: (if first.isCompleted then t :: (if t.isCompleted then [] else []) else []) = _
    rw [hfirst, hlast]
    rfl
  obtain ⟨src, hsrc, hcomputes, -, hkept⟩ :=
    (merge_of_current_source Sample.snapshot_editing).2 [first] t [] "y\n" hcourse hmerged
  refine ⟨first, t, hcourse, rfl, hmerged, src, ?_, hcomputes, ?_⟩
  · rwa [List.flatMap_singleton] at hsrc
  · exact hkept (by simp [List.eq_nil_of_length_eq_zero hedits])

/-- A plugin edits the file whose turn it is and leaves the document as it is. The merge puts the
content back that was there before the edit. -/
theorem Session.merge_overwrites_own_edit :
    ∃ t ∈ (Sample.editing "a.txt" "a.txt").course (Sample.texts ["a.txt"]) .none,
      t.start.overlay.read? t.file.path = some "x\n" ∧
      t.start.Computes t.file.path "x\n" "x\n" ∧
      t.merged? = some "x\n" ∧
      t.halfway.overlay.read? t.file.path = some "y\n" ∧
      ((Sample.editing "a.txt" "a.txt").update (Sample.texts ["a.txt"]) .none).session.changes =
        [] := by
  let o : Overlay := { root := "proj", files := [⟨"a.txt", "x\n", false⟩] }
  let t := Turn.begin .abort .none 0 ⟨"a.txt", "x\n", false⟩
    ((Sample.editing "a.txt" "a.txt").firstPass o)
  have ho : (Sample.editing "a.txt" "a.txt").snapshot (Sample.texts ["a.txt"]) = .ok o := by
    decide +kernel
  obtain ⟨hsrc, hmerged, hedited⟩ : t.start.overlay.read? t.file.path = some "x\n" ∧
      t.merged? = some "x\n" ∧ t.halfway.overlay.read? t.file.path = some "y\n" := by
    decide +kernel
  obtain ⟨src, hread, hcomputes, -⟩ := Turn.merged_from_source rfl hmerged
  obtain rfl : src = "x\n" := Option.some.inj (hread.symm.trans hsrc)
  refine ⟨t, ?_, hsrc, hcomputes, hmerged, hedited, by decide +kernel⟩
  rw [course, ho]
  exact List.mem_cons_self

end Codemod
