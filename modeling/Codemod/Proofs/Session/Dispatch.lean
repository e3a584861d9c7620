import Codemod.Proofs.Session.Afresh
import Codemod.Proofs.Session.Skipping

/-!
# Which files are handed to updaters

A run that is watched notes every document that an updater is given. Watching changes nothing, and
what has been noted can be told from the snapshot: the files have their turns in the order of the
walk, and a turn hands over one document or none. Plugins may create, change and delete files all
the while. That shows in the content that a later turn hands over, or in that it hands over nothing,
but never in which files have a turn.

## Main definitions

* `Invocation` — an updater is given a document.
* `turnsWatched`, `Session.invocations` — the turns of a run, watched.
* `Turn.handed?` — what a turn is to hand over.

## Main results

* `fst_turnsWatched` — watching changes nothing.
* `course_cases` — all files have their turn, unless one of the turns is not completed.
* `snd_turnsWatched` — every turn hands over what it is to.
* `Session.handed_over_in_walk_order` — the documents that are handed over in a run.
-/

namespace Codemod

/-- An updater is given a document. -/
structure Invocation where
  /-- The place of the updater in the list of all updaters. -/
  updater : Nat
  path : String
  src : String
  deriving DecidableEq

/-! ## Watching -/

/-- `dispatch`, watched. The first updater of the list has the place `i`. -/
def dispatchWatched (path src : String) : (i : Nat) → List Updater → Host →
    Option (Except Failure String × List Updater × Host) × List Invocation
  | _, [], _ => (none, [])
  | i, u :: rest, h =>
    if u.supports path then
      let (r, u, h) := u.update path src h
      (some (r, u :: rest, h), [⟨i, path, src⟩])
    else
      let (x, noted) := dispatchWatched path src (i + 1) rest h
      (x.map fun (r, us, h) => (r, u :: us, h), noted)

namespace Pass

/-- `Pass.transform`, watched. -/
def transformWatched (onError : OnError) (path : String) (p : Pass) :
    (Except Failure (Option String) × Pass) × List Invocation :=
  match p.overlay.read? path with
  | none => ((.ok none, p), [])
  | some src =>
    match dispatchWatched path src 0 p.updaters p.host with
    | (none, noted) => ((.ok (some src), p), noted)
    | (some (.ok content, updaters, host), noted) =>
      ((.ok (some content), { p with updaters, host }), noted)
    | (some (.error f, updaters, host), noted) =>
      let p := { p with updaters, host }
      match onError with
      | .abort => ((.error f, p), noted)
      | .skipFile =>
        ((.ok none, { p with skipped := p.skipped ++ [{ path, reason := f.message }] }), noted)

/-- `Pass.begin`, watched. -/
def beginWatched (onError : OnError) (signals : Signals) (i : Nat) (f : ProjectFile) (p : Pass) :
    (Except Failure (Option String) × Pass) × List Invocation :=
  let ((r, p), noted) := if f.binary then ((.ok none, p), []) else p.transformWatched onError f.path
  ((r, p.signal (signals i)), noted)

end Pass

/-- `turns`, watched. -/
def turnsWatched (onError : OnError) (signals : Signals) (total : Nat) :
    (i : Nat) → List ProjectFile → Pass → (List Event × Pass × Ending) × List Invocation
  | _, [], p => (([], p, .finished), [])
  | i, f :: rest, p =>
    match p.beginWatched onError signals i f with
    | ((.error e, p), noted) => (([], p, .failed e), noted)
    | ((.ok content, p), noted) =>
      if p.host.canceled then (([], p, .canceled), noted)
      else
        let ((events, p, ending), more) :=
          turnsWatched onError signals total (i + 1) rest (p.merge f.path content)
        ((turnEvent i total f.path :: events, p, ending), noted ++ more)

/-- The documents that are handed to updaters in a run, in order. -/
def Session.invocations (s : Session) (d : Disk) (signals : Signals) : List Invocation :=
  match s.snapshot d with
  | .error _ => []
  | .ok o => (turnsWatched s.onError signals o.files.length 0 o.files (s.firstPass o)).2

/-! ### Watching changes nothing -/

theorem fst_dispatchWatched (path src : String) (i : Nat) (us : List Updater) (h : Host) :
    (dispatchWatched path src i us h).1 = dispatch path src us h := by
  induction us generalizing i with
  | nil => rfl
  | cons u rest ih =>
    rw [dispatchWatched, dispatch]
    split
    · rfl
    · rw [← ih (i + 1)]

theorem Pass.fst_transformWatched (onError : OnError) (path : String) (p : Pass) :
    (p.transformWatched onError path).1 = p.transform onError path := by
  rw [transformWatched, transform]
  cases p.overlay.read? path with
  | none => rfl
  | some src =>
    dsimp only
    rw [← fst_dispatchWatched path src 0]
    rcases dispatchWatched path src 0 p.updaters p.host with ⟨_ | ⟨e | content, us, h⟩, noted⟩
    · rfl
    · cases onError <;> rfl
    · rfl

theorem Pass.fst_beginWatched (onError : OnError) (signals : Signals) (i : Nat) (f : ProjectFile)
    (p : Pass) : (p.beginWatched onError signals i f).1 = p.begin onError signals i f := by
  rw [beginWatched, begin]
  cases f.binary with
  | true => rfl
  | false =>
    rw [if_neg Bool.false_ne_true, if_neg Bool.false_ne_true, ← fst_transformWatched]

theorem fst_turnsWatched (onError : OnError) (signals : Signals) (total i : Nat)
    (files : List ProjectFile) (p : Pass) :
    (turnsWatched onError signals total i files p).1 = turns onError signals total i files p := by
  induction files generalizing i p with
  | nil => rfl
  | cons f rest ih =>
    rw [turnsWatched, turns, ← Pass.fst_beginWatched]
    rcases p.beginWatched onError signals i f with ⟨⟨e | content, q⟩, noted⟩
    · rfl
    · dsimp only
      split
      · rfl
      · rw [← ih]

/-! ## What a turn hands over -/

/-- What a turn is to hand over: a text that is there goes, as the overlay has it by then, to the
first of the updaters that claims its path. -/
def Turn.handed? (us : List Updater) (t : Turn) : Option Invocation :=
  match t.file.binary, t.start.overlay.read? t.file.path,
    us.findIdx? (·.supports t.file.path) with
  | false, some src, some i => some { updater := i, path := t.file.path, src }
  | _, _, _ => none

theorem Turn.path_of_handed? {us : List Updater} {t : Turn} {x : Invocation}
    (h : t.handed? us = some x) : x.path = t.file.path := by
  unfold handed? at h
  split at h
  · obtain rfl := Option.some.inj h
    rfl
  · cases h

theorem snd_dispatchWatched (path src : String) (i : Nat) (us : List Updater) (h : Host) :
    (dispatchWatched path src i us h).2 =
      ((us.findIdx? (·.supports path)).map fun k => ⟨i + k, path, src⟩).toList := by
  induction us generalizing i with
  | nil => rfl
  | cons u rest ih =>
    rw [dispatchWatched, List.findIdx?_cons]
    split
    · rfl
    · rw [ih (i + 1), Option.map_map]
      congr 2
      funext k
      simp [Nat.add_assoc, Nat.add_comm 1]

/-- What is noted of a document that is there is what is noted when it is dispatched. -/
theorem Pass.snd_transformWatched (onError : OnError) {path src : String} {p : Pass}
    (hsrc : p.overlay.read? path = some src) :
    (p.transformWatched onError path).2 = (dispatchWatched path src 0 p.updaters p.host).2 := by
  rw [transformWatched, hsrc]
  dsimp only
  rcases dispatchWatched path src 0 p.updaters p.host with ⟨_ | ⟨e | content, us, h⟩, noted⟩
  · rfl
  · cases onError <;> rfl
  · rfl

theorem Turn.snd_beginWatched (onError : OnError) (signals : Signals) (i : Nat) (f : ProjectFile)
    (p : Pass) :
    (p.beginWatched onError signals i f).2 =
      ((Turn.begin onError signals i f p).handed? p.updaters).toList := by
  rw [Pass.beginWatched, handed?, Turn.begin]
  dsimp only
  cases f.binary with
  | true => rfl
  | false =>
    rw [if_neg Bool.false_ne_true]
    cases hsrc : p.overlay.read? f.path with
    | none => simp [Pass.transformWatched, hsrc]
    | some src =>
      rw [Pass.snd_transformWatched onError hsrc, snd_dispatchWatched]
      cases p.updaters.findIdx? (·.supports f.path) <;> simp

/-! ## The turns of a run -/

section Turns

variable {onError : OnError} {signals : Signals} {i : Nat} {files : List ProjectFile} {p : Pass}

/-- Only the last turn may not be completed. The turns are those of the first files, in order. -/
theorem place_of_course {before later : List Turn} {t : Turn}
    (h : course onError signals i files p = before ++ t :: later) :
    (∀ u ∈ before, u.isCompleted = true) ∧ t.index = i + before.length ∧
      files[before.length]? = some t.file := by
  induction files generalizing i p before with
  | nil => simp [course] at h
  | cons f rest ih =>
    rw [course] at h
    cases before with
    | nil =>
      obtain ⟨rfl, -⟩ := List.cons.inj h
      exact ⟨by simp, rfl, rfl⟩
    | cons u before =>
      obtain ⟨rfl, hrest⟩ := List.cons.inj h
      split at hrest
      next hu =>
        obtain ⟨hcompleted, hindex, hfile⟩ := ih hrest
        refine ⟨List.forall_mem_cons.mpr ⟨hu, hcompleted⟩, ?_, hfile⟩
        rw [hindex, List.length_cons]
        omega
      next => simp at hrest

variable (onError signals i files p)

/-- All files have their turn, unless one of the turns is not completed. -/
theorem course_cases (total : Nat) :
    ((course onError signals i files p).map Turn.file = files ∧
      (∀ t ∈ course onError signals i files p, t.isCompleted = true) ∧
      (turns onError signals total i files p).2.2 = .finished) ∨
    ∃ before t, course onError signals i files p = before ++ [t] ∧ t.isCompleted = false ∧
      (turns onError signals total i files p).2.2 = t.ending := by
  induction files generalizing i p with
  | nil => exact .inl ⟨rfl, by simp [course], rfl⟩
  | cons f rest ih =>
    rw [course]
    cases h : (Turn.begin onError signals i f p).isCompleted with
    | true =>
      rw [turns_of_completed total rest rfl h, if_pos rfl]
      obtain ⟨hfiles, hcompleted, hend⟩ | ⟨before, t, hcourse, ht, hend⟩ :=
        ih (i + 1) (Turn.begin onError signals i f p).stop
      · exact .inl ⟨congrArg (f :: ·) hfiles, List.forall_mem_cons.mpr ⟨h, hcompleted⟩, hend⟩
      · exact .inr ⟨_ :: before, t, congrArg (_ :: ·) hcourse, ht, hend⟩
    | false =>
      rw [turns_of_not_completed total rest rfl h]
      exact .inr ⟨[], _, rfl, h, rfl⟩

/-- The turns that are completed are announced. -/
theorem length_turns (total : Nat) :
    (turns onError signals total i files p).1.length =
      ((course onError signals i files p).filter Turn.isCompleted).length := by
  induction files generalizing i p with
  | nil => rfl
  | cons f rest ih =>
    rw [course]
    cases h : (Turn.begin onError signals i f p).isCompleted with
    | true =>
      rw [turns_of_completed total rest rfl h, List.length_cons, ih (i + 1), List.filter_cons, h]
      rfl
    | false =>
      rw [turns_of_not_completed total rest rfl h]
      simp [h]

/-- What is noted of the turns is what each of them is to hand over. -/
theorem snd_turnsWatched (total : Nat) :
    (turnsWatched onError signals total i files p).2 =
      (course onError signals i files p).filterMap fun t => t.handed? t.start.updaters := by
  induction files generalizing i p with
  | nil => rfl
  | cons f rest ih =>
    set t := Turn.begin onError signals i f p with ht
    have hbegin : p.beginWatched onError signals i f =
        ((t.result, t.halfway), (t.handed? t.start.updaters).toList) :=
      Prod.ext (Pass.fst_beginWatched ..) (Turn.snd_beginWatched ..)
    have hcons (l : List Turn) :
        (t :: l).filterMap (fun t => t.handed? t.start.updaters) =
          (t.handed? t.start.updaters).toList ++
            l.filterMap fun t => t.handed? t.start.updaters := by
      rw [List.filterMap_cons]
      cases t.handed? t.start.updaters <;> rfl
    have hfile : t.file = f := rfl
    rw [turnsWatched, hbegin, course, ← ht, hcons, Turn.isCompleted]
    cases hresult : t.result with
    | error e => simp
    | ok content =>
      dsimp only
      cases hcanceled : t.halfway.host.canceled with
      | true => simp
      | false =>
        have hstop : t.stop = t.halfway.merge f.path content := by
          rw [Turn.stop, Turn.merged?, hresult, hfile]
          simp [hcanceled]
        rw [if_neg Bool.false_ne_true, if_pos (by rfl), ih, hstop]

/-- No turn changes what the updaters were set up for. -/
theorem setup_start_of_course {t : Turn} (h : t ∈ course onError signals i files p) :
    t.start.updaters.map Updater.setup = p.updaters.map Updater.setup := by
  induction files generalizing i p with
  | nil => simp [course] at h
  | cons f rest ih =>
    rw [course] at h
    rcases List.mem_cons.mp h with rfl | h
    · rfl
    · split at h
      · have hbegin := p.setup_begin onError signals i f
        have hrest := ih _ _ h
        rw [Turn.stop, Pass.updaters_merge] at hrest
        exact hrest.trans hbegin
      · cases h

end Turns

theorem Turn.handed?_congr {us vs : List Updater}
    (h : us.map Updater.setup = vs.map Updater.setup) (t : Turn) : t.handed? us = t.handed? vs := by
  have hfirst (ws : List Updater) : ws.findIdx? (·.supports t.file.path) =
      (ws.map Updater.setup).findIdx? fun c => c.matcher.claims t.file.path := by
    rw [List.findIdx?_map]
    rfl
  rw [handed?, handed?, hfirst us, hfirst vs, h]

theorem map_path_handed_sublist (us : List Updater) (ts : List Turn) :
    ((ts.filterMap (Turn.handed? us)).map (·.path)).Sublist (ts.map (·.file.path)) := by
  induction ts with
  | nil => exact .slnil
  | cons t ts ih =>
    cases h : t.handed? us with
    | none => simpa [h] using ih.cons t.file.path
    | some x =>
      have hpath : x.path = t.file.path := Turn.path_of_handed? h
      simpa [h, hpath] using ih.cons_cons t.file.path

/-! ## Runs -/

/-- The state that turns which end like this leave a run in. -/
def Ending.state : Ending → RunState
  | finished => .finished
  | canceled => .canceled
  | failed _ => .errored

namespace Session

variable {s : Session} {d : Disk} {signals : Signals} {o : Overlay}

theorem course_of_snapshot (ho : s.snapshot d = .ok o) :
    s.course d signals = Codemod.course s.onError signals 0 o.files (s.firstPass o) := by
  rw [course, ho]

/-- The updaters of a turn are set up as those of the session. -/
theorem setup_start (ho : s.snapshot d = .ok o) {t : Turn} (ht : t ∈ s.course d signals) :
    t.start.updaters.map Updater.setup = s.updaters.map Updater.setup := by
  rw [course_of_snapshot ho] at ht
  exact (setup_start_of_course _ _ _ _ _ ht).trans (congrArg Setup.updaters s.setup_reset)

theorem invocations_eq (ho : s.snapshot d = .ok o) :
    s.invocations d signals = (s.course d signals).filterMap (Turn.handed? s.updaters) := by
  rw [invocations, ho]
  dsimp only
  rw [snd_turnsWatched, ← course_of_snapshot ho]
  exact List.filterMap_congr fun t ht => Turn.handed?_congr (setup_start ho ht) t

/-- The files that are handed over are files of the snapshot, in its order. -/
theorem map_path_invocations_sublist (signals : Signals) (ho : s.snapshot d = .ok o) :
    ((s.invocations d signals).map (·.path)).Sublist (o.files.map (·.path)) := by
  have hfiles := (map_file_course signals 0 o.files (s.firstPass o) s.onError).sublist.map (·.path)
  rw [List.map_map, ← course_of_snapshot ho] at hfiles
  rw [invocations_eq ho]
  exact (map_path_handed_sublist s.updaters _).trans hfiles

/-- A run ends as its turns do. -/
theorem state_update (ho : s.snapshot d = .ok o) :
    (s.update d signals).session.state =
      (turns s.onError signals o.files.length 0 o.files (s.firstPass o)).2.2.state := by
  obtain ⟨hfolder, -⟩ | ⟨-, f, events, hno, -⟩ |
    ⟨-, o', done, p, ending, ho', hturns, hupdate⟩ := s.update_cases d signals
  · simp [snapshot, hfolder] at ho
  · cases ho.symm.trans hno
  · obtain rfl : o = o' := Except.ok.inj (ho.symm.trans ho')
    rw [hupdate, hturns]
    cases ending <;> rfl

/-- A run is finished if and only if every turn of its course is completed. -/
theorem finished_iff (ho : s.snapshot d = .ok o) :
    (s.update d signals).session.state = .finished ↔
      ∀ t ∈ s.course d signals, t.isCompleted = true := by
  rw [state_update ho, course_of_snapshot ho]
  obtain ⟨-, hcompleted, hend⟩ | ⟨before, t, hcourse, ht, hend⟩ :=
    course_cases s.onError signals 0 o.files (s.firstPass o) o.files.length
  · exact iff_of_true (by rw [hend]; rfl) hcompleted
  · refine iff_of_false ?_ fun hall => ?_
    · rw [hend, Turn.ending]
      split <;> simp [Ending.state]
    · rw [hall t (by simp [hcourse])] at ht
      cases ht

/-- If all turns are completed, every file has had one. -/
theorem map_file_of_completed (ho : s.snapshot d = .ok o)
    (hall : ∀ t ∈ s.course d signals, t.isCompleted = true) :
    (s.course d signals).map Turn.file = o.files := by
  rw [course_of_snapshot ho] at hall ⊢
  obtain ⟨hfiles, -⟩ | ⟨before, t, hcourse, ht, -⟩ :=
    course_cases s.onError signals 0 o.files (s.firstPass o) o.files.length
  · exact hfiles
  · rw [hall t (by simp [hcourse])] at ht
    cases ht

/-- The documents that are handed to updaters in a run, which is the same whether it is watched or
not. The turns are those of the files of the snapshot, in the order of the walk, up to the first
that fails or at which the run is canceled; each finds what all edits of the turns before it have
left. A turn hands over the content that it finds, to the first updater that claims the path; it
hands over nothing if the file is not text, is not there any more or is claimed by none. So no file
is handed over twice, and none that is not of the snapshot. -/
theorem handed_over_in_walk_order (signals : Signals) (ho : s.snapshot d = .ok o) :
    (turnsWatched s.onError signals o.files.length 0 o.files (s.firstPass o)).1 =
        turns s.onError signals o.files.length 0 o.files (s.firstPass o) ∧
      s.invocations d signals = (s.course d signals).filterMap (Turn.handed? s.updaters) ∧
      (∀ before t later, s.course d signals = before ++ t :: later →
        (∀ u ∈ before, u.isCompleted = true) ∧ o.files[before.length]? = some t.file ∧
          t.start.overlay = o.editAll (before.flatMap Turn.allEdits)) ∧
      ((∀ t ∈ s.course d signals, t.isCompleted = true) →
        (s.course d signals).map Turn.file = o.files) ∧
      ((s.update d signals).session.state = .finished ↔
        ∀ t ∈ s.course d signals, t.isCompleted = true) ∧
      (∃ paths, d.walk s.root s.skipDirs = .ok paths ∧
        o.files.map (·.path) = (paths.map Path.normalize).eraseDups) ∧
      ((s.invocations d signals).map (·.path)).Nodup ∧
      ((s.invocations d signals).map (·.path)).Sublist (o.files.map (·.path)) := by
  have hsublist := map_path_invocations_sublist signals ho
  refine ⟨fst_turnsWatched .., invocations_eq ho, fun before t later hcourse => ?_,
    map_file_of_completed ho, finished_iff ho, map_path_snapshot ho,
    (valid_snapshot ho).files_nodup.sublist hsublist, hsublist⟩
  rw [course_of_snapshot ho] at hcourse
  obtain ⟨hcompleted, -, hfile⟩ := place_of_course hcourse
  exact ⟨hcompleted, hfile, (start_of_course hcourse).2⟩

end Session

namespace Sample

/-- In the turn of `a.txt`, changes one file and creates another. -/
def founder : Plugin N :=
  fun _ path =>
    if path = "a.txt" then .add "b.txt" "y\n" (.add "n.txt" "z\n" (.done (.ok .unchanged)))
    else .done (.ok .unchanged)

/-- Two of the updaters claim text files. -/
def founding : Session :=
  { updaters := [
      { kind := .markup, format := .markup },
      { kind := .text, format := .text, plugins := [founder] },
      { kind := .text, format := .text }]
    overlay := { root := "proj" } }

theorem snapshot_texts {s : Session} (hroot : s.root = "proj")
    (hskip : s.skipDirs = ["node_modules"]) :
    s.snapshot (texts ["a.txt", "b.txt"]) = .ok snapshot := by
  have hempty : s.reset.overlay = { root := "proj" } := by
    rw [← hroot]
    rfl
  rw [Session.snapshot, hroot, hskip, walk_texts, hempty]
  rfl

theorem snapshot_founding : founding.snapshot (texts ["a.txt", "b.txt"]) = .ok snapshot :=
  snapshot_texts rfl rfl

end Sample

/-- The second file is handed over as the first turn has left it, and the file that this turn has
created is not handed over. -/
theorem Session.handed_over_in_walk_order_founding :
    Sample.founding.invocations (Sample.texts ["a.txt", "b.txt"]) .none =
        [⟨1, "a.txt", "x\n"⟩, ⟨1, "b.txt", "y\n"⟩] ∧
      "n.txt" ∈ ((Sample.founding.course (Sample.texts ["a.txt", "b.txt"]) .none).flatMap
        Turn.allEdits).map Edit.target ∧
      ((Sample.founding.invocations (Sample.texts ["a.txt", "b.txt"]) .none).map
        (·.path)).Sublist ["a.txt", "b.txt"] := by
  obtain ⟨-, -, -, -, -, -, -, hsublist⟩ :=
    Session.handed_over_in_walk_order .none Sample.snapshot_founding
  refine ⟨?_, ?_, hsublist⟩
  · rw [invocations, Sample.snapshot_founding]
    decide +kernel
  · rw [course_of_snapshot Sample.snapshot_founding]
    decide +kernel

end Codemod
