import Codemod.Proofs.Decimal.Binary64
import Codemod.Proofs.Overlay.NetChange
import Codemod.Proofs.Session.Course
import Codemod.Proofs.Session.Untouched

/-!
# What a run publishes

The events of a run follow one pattern, however the run ends: three phases, one event for every file
whose turn is completed, one event for every file that has changed, and an event that says how the
run has ended. A run that fails breaks off within the phases and turns, says why, announces no file,
and leaves nothing behind that could be committed.

## Main definitions

* `turnEvents` — the events of the turns of all files.
* `Event.share?`, `IsProgress` — the shares that such events announce, and what is asked of them.

## Main results

* `turns_cases` — the turns announce the files in order, all of them if they come to their end.
* `isProgress_take` — the shares grow, and the last is one.
* `Session.map_path_snapshot` — the files are those that a walk finds, in its order.
* `Session.update_publishes` — the events of a run, by its ending.
-/

namespace Codemod

/-! ## Shares -/

/-- The share that an event announces. -/
def Event.share? : Event → Option ℚ
  | determinate progress _ => some progress.toRat
  | _ => none

/-- The shares tell how many of so many files are done, as well as doubles can: they grow from one
to the next as long as doubles can be told apart, and the last file makes it one. -/
structure IsProgress (total : ℕ) (shares : List ℚ) : Prop where
  near : ∀ (i : ℕ) (x : ℚ), shares[i]? = some x → |x - (i + 1) / total| ≤ 2 ^ (-54 : ℤ)
  increasing : total < 2 ^ 53 → shares.Pairwise (· < ·)
  last : ∀ x, shares[total - 1]? = some x → x = 1

/-- The events of the turns of all files of a run. -/
def turnEvents (files : List ProjectFile) : List Event :=
  files.mapIdx fun i f => turnEvent i files.length f.path

/-- The shares that the first `k` turns announce. -/
theorem shares_take (files : List ProjectFile) {k : ℕ} (hk : k ≤ files.length) :
    ((turnEvents files).take k).filterMap Event.share? =
      (List.range k).map fun i => (Binary64.ofRatio (i + 1) files.length).toRat := by
  have htake : (turnEvents files).take k =
      (List.range k).map fun i => turnEvent i files.length ((files[i]?.map (·.path)).getD "") := by
    refine List.ext_getElem (by simp [turnEvents, hk]) fun i h hi => ?_
    have hlt : i < files.length := by simp at hi; omega
    simp [turnEvents, hlt]
  rw [htake, List.filterMap_map, ← List.filterMap_eq_map]
  rfl

theorem isProgress_take (files : List ProjectFile) {k : ℕ} (hk : k ≤ files.length) :
    IsProgress files.length (((turnEvents files).take k).filterMap Event.share?) := by
  have hat {i : ℕ} {x : ℚ}
      (hx : (((turnEvents files).take k).filterMap Event.share?)[i]? = some x) :
      i < k ∧ x = (Binary64.ofRatio (i + 1) files.length).toRat := by
    rw [shares_take files hk, List.getElem?_map, Option.map_eq_some_iff] at hx
    obtain ⟨j, hj, rfl⟩ := hx
    obtain ⟨hi, rfl⟩ := List.getElem?_eq_some_iff.mp hj
    simpa using hi
  refine ⟨fun i x hx => ?_, fun htotal => ?_, fun x hx => ?_⟩
  · obtain ⟨hi, rfl⟩ := hat hx
    have hnear := Binary64.abs_toRat_ofRatio_sub_le i.succ_pos (Nat.succ_le_of_lt (hi.trans_le hk))
    exact_mod_cast hnear
  · rw [shares_take files hk, List.pairwise_map]
    refine List.pairwise_lt_range.imp_of_mem fun {i j} _ hj hlt => ?_
    have hj : j < k := by simpa using hj
    exact Binary64.toRat_ofRatio_lt i.succ_pos (by omega) (by omega) htotal
  · obtain ⟨hi, rfl⟩ := hat hx
    rw [Nat.sub_add_cancel (by omega)]
    exact Binary64.toRat_ofRatio_self (by omega)

/-! ## Turns -/

/-- The turns announce files in order: all of them if they come to their end, and otherwise those
before the one whose turn was not completed. -/
theorem turns_cases (onError : OnError) (signals : Signals) (total i : ℕ)
    (files : List ProjectFile) (p : Pass) :
    ((turns onError signals total i files p).2.2 = .finished ∧
      (turns onError signals total i files p).1 =
        files.mapIdx fun j f => turnEvent (i + j) total f.path) ∨
    ((turns onError signals total i files p).2.2 ≠ .finished ∧ ∃ k < files.length,
      (turns onError signals total i files p).1 =
        (files.mapIdx fun j f => turnEvent (i + j) total f.path).take k) := by
  induction files generalizing i p with
  | nil => exact .inl ⟨rfl, rfl⟩
  | cons f rest ih =>
    cases h : (Turn.begin onError signals i f p).isCompleted with
    | true =>
      have hnext : (fun j (f : ProjectFile) => turnEvent (i + (j + 1)) total f.path) =
          fun j f => turnEvent (i + 1 + j) total f.path := by
        funext j f
        rw [Nat.add_right_comm, Nat.add_assoc]
      rw [turns_of_completed total rest rfl h, List.mapIdx_cons, hnext]
      obtain ⟨hend, hevents⟩ | ⟨hend, k, hk, hevents⟩ :=
        ih (i + 1) (Turn.begin onError signals i f p).stop
      · exact .inl ⟨hend, congrArg (turnEvent i total f.path :: ·) hevents⟩
      · exact .inr ⟨hend, k + 1, Nat.succ_lt_succ hk,
          congrArg (turnEvent i total f.path :: ·) hevents⟩
    | false =>
      rw [turns_of_not_completed total rest rfl h]
      refine .inr ⟨?_, 0, Nat.succ_pos _, rfl⟩
      rw [Turn.ending]
      split <;> simp

/-! ## Snapshots -/

namespace Session

/-- The snapshot has the files that a walk finds, in its order. Two of them are one file to the
snapshot if their paths are the same in project form. -/
theorem map_path_snapshot {s : Session} {d : Disk} {o : Overlay} (h : s.snapshot d = .ok o) :
    ∃ paths, d.walk s.root s.skipDirs = .ok paths ∧
      o.files.map (·.path) = (paths.map Path.normalize).eraseDups := by
  obtain ⟨files, hwalk, rfl⟩ := snapshot_ok h
  refine ⟨_, hwalk, ?_⟩
  have hfiles := Overlay.map_path_ofFiles s.root files
  rw [walkOrder] at hfiles
  rw [List.map_map]
  exact hfiles

/-! ## Runs -/

/-- The phases that every run goes through that can read its project. -/
def phases : List Event :=
  [phase "Initializing...", phase "Reading files...", phase "Updating files..."]

/-- Nothing is left of a run that could be committed. -/
structure IsCleared (s : Session) : Prop where
  files : s.overlay.files = []
  records : s.overlay.records = []
  skipped : s.skipped = []

/-- The events by which changes are announced. -/
def changeEvents (changes : List Change) : List Event :=
  changes.map fun c => .file c.path (Patch.unified c.path c.before c.content)

/-- The events of a run of `s`, by its ending. -/
inductive Run.Publishes (s : Session) (d : Disk) (r : Run) : Prop
  /-- There is no folder to update, and one event says so. -/
  | noFolder (folder : d.isFolder s.root = false) (state : r.session.state = .errored)
      (events : r.events = [.query .zero (Failure.notADirectory s.root).message])
  /-- Every file of the snapshot has had its turn. -/
  | finished (folder : d.isFolder s.root = true) (state : r.session.state = .finished)
      (o : Overlay) (snapshot : s.snapshot d = .ok o) (files : r.session.overlay.files = o.files)
      (events : r.events = phases ++ turnEvents o.files ++ changeEvents r.session.changes ++
        [.query Event.finished "Update finished."])
  /-- Only some of the first files have had their turn. -/
  | canceled (folder : d.isFolder s.root = true) (state : r.session.state = .canceled)
      (o : Overlay) (snapshot : s.snapshot d = .ok o) (files : r.session.overlay.files = o.files)
      (k : ℕ) (lt : k < o.files.length)
      (events : r.events = phases ++ (turnEvents o.files).take k ++
        changeEvents r.session.changes ++ [.query .zero "Update canceled."])
  /-- The snapshot could not be taken. -/
  | unread (folder : d.isFolder s.root = true) (state : r.session.state = .errored)
      (f : Failure) (snapshot : s.snapshot d = .error f) (k : ℕ) (one_le : 1 ≤ k) (le_two : k ≤ 2)
      (events : r.events = phases.take k ++ [.query .zero ("An error occurred. " ++ f.message)])
  /-- The turn of a file has failed. -/
  | failed (folder : d.isFolder s.root = true) (state : r.session.state = .errored)
      (f : Failure) (o : Overlay) (snapshot : s.snapshot d = .ok o) (k : ℕ)
      (lt : k < o.files.length)
      (events : r.events = phases ++ (turnEvents o.files).take k ++
        [.query .zero ("An error occurred. " ++ f.message)])

/-- Turns announce files of the snapshot and keep the snapshot as it is. -/
theorem turns_firstPass {s : Session} {signals : Signals} {o : Overlay} {done : List Event}
    {p : Pass} {ending : Ending}
    (h : turns s.onError signals o.files.length 0 o.files (s.firstPass o) = (done, p, ending)) :
    p.overlay.files = o.files ∧
      ((ending = .finished ∧ done = turnEvents o.files) ∨
        (ending ≠ .finished ∧ ∃ k < o.files.length, done = (turnEvents o.files).take k)) := by
  have hcases := turns_cases s.onError signals o.files.length 0 o.files (s.firstPass o)
  have hoverlay := overlay_turns s.onError signals 0 o.files (s.firstPass o) o.files.length
  simp only [h, Nat.zero_add] at hcases hoverlay
  refine ⟨?_, hcases⟩
  rw [hoverlay, Overlay.files_editAll]
  rfl

theorem publishes_update (s : Session) (d : Disk) (signals : Signals) :
    (s.update d signals).Publishes s d := by
  obtain ⟨hfolder, hupdate⟩ | ⟨hfolder, f, events, hsnapshot, hevents, hupdate⟩ |
    ⟨hfolder, o, done, p, ending, hsnapshot, hturns, hupdate⟩ := s.update_cases d signals
  · rw [hupdate]
    exact .noFolder hfolder rfl rfl
  · rw [hupdate]
    rcases hevents with rfl | rfl
    · exact .unread hfolder rfl f hsnapshot 1 (by omega) (by omega) rfl
    · exact .unread hfolder rfl f hsnapshot 2 (by omega) (by omega) rfl
  · obtain ⟨hfiles, hcases⟩ := turns_firstPass hturns
    rw [hupdate]
    cases ending with
    | finished =>
      obtain ⟨-, rfl⟩ | ⟨hne, -⟩ := hcases
      · exact .finished hfolder rfl o hsnapshot hfiles rfl
      · exact absurd rfl hne
    | canceled =>
      obtain ⟨h, -⟩ | ⟨-, k, hk, rfl⟩ := hcases
      · cases h
      · exact .canceled hfolder rfl o hsnapshot hfiles k hk rfl
    | failed f =>
      obtain ⟨h, -⟩ | ⟨-, k, hk, rfl⟩ := hcases
      · cases h
      · exact .failed hfolder rfl f o hsnapshot k hk rfl

/-- A run that ends with a failure is forgotten, wherever it has failed. -/
theorem isCleared_update {s : Session} {d : Disk} {signals : Signals}
    (h : (s.update d signals).session.state = .errored) :
    (s.update d signals).session.IsCleared := by
  obtain ⟨-, hupdate⟩ | ⟨-, f, events, -, -, hupdate⟩ | ⟨-, o, done, p, ending, -, -, hupdate⟩ :=
    s.update_cases d signals
  · rw [hupdate]
    exact ⟨rfl, rfl, rfl⟩
  · rw [hupdate]
    exact ⟨rfl, rfl, rfl⟩
  · rw [hupdate] at h ⊢
    cases ending with
    | finished => cases h
    | canceled => cases h
    | failed f => exact ⟨rfl, rfl, rfl⟩

/-- The events of a run follow one of the patterns of `Run.Publishes`. The files of the snapshot are
in the order of the walk, and the shares that are announced of them grow to one. A run that fails
leaves no file, no record and nothing skipped, so that a commit after it has nothing to report and
leaves every disk as it is. -/
theorem update_publishes (s : Session) (d : Disk) (signals : Signals) :
    (s.update d signals).Publishes s d ∧
      (∀ o, s.snapshot d = .ok o →
        (∃ paths, d.walk s.root s.skipDirs = .ok paths ∧
          o.files.map (·.path) = (paths.map Path.normalize).eraseDups) ∧
        ∀ k ≤ o.files.length,
          IsProgress o.files.length (((turnEvents o.files).take k).filterMap Event.share?)) ∧
      ((s.update d signals).session.state = .errored →
        (s.update d signals).session.IsCleared ∧
          ∀ d', (s.update d signals).session.commit d' =
            (d', (s.update d signals).session, .ok {})) := by
  refine ⟨s.publishes_update d signals, fun o ho => ?_, fun h => ?_⟩
  · exact ⟨map_path_snapshot ho, fun k hk => isProgress_take o.files hk⟩
  · have hcleared := isCleared_update h
    exact ⟨hcleared, commit_of_no_records hcleared.records⟩

end Session

namespace Sample

/-- Edits another file and then gives up. -/
def quitter : Plugin N :=
  fun _ _ => .add "b.txt" "y\n" (.done (.error ["no"]))

def quitting : Session :=
  { updaters := [{ kind := .text, format := .text, plugins := [quitter] }]
    overlay := { root := "proj" } }

end Sample

/-- A run that fails in the first turn has gone through its phases, and nothing is left of the edit
that was made before the failure. -/
theorem Session.update_publishes_quitting :
    (Sample.quitting.update (Sample.texts ["a.txt"]) .none).session.state = .errored ∧
      (Sample.quitting.update (Sample.texts ["a.txt"]) .none).events.take 3 = phases ∧
      (Sample.quitting.update (Sample.texts ["a.txt"]) .none).session.IsCleared ∧
      (Sample.quitting.update (Sample.texts ["a.txt"]) .none).session.commit
          (Sample.texts ["a.txt"]) =
        (Sample.texts ["a.txt"], (Sample.quitting.update (Sample.texts ["a.txt"]) .none).session,
          .ok {}) := by
  obtain ⟨hstate, hphases⟩ :
      (Sample.quitting.update (Sample.texts ["a.txt"]) .none).session.state = .errored ∧
        (Sample.quitting.update (Sample.texts ["a.txt"]) .none).events.take 3 = phases := by
    decide +kernel
  obtain ⟨-, -, herrored⟩ :=
    Session.update_publishes Sample.quitting (Sample.texts ["a.txt"]) .none
  obtain ⟨hcleared, hcommit⟩ := herrored hstate
  exact ⟨hstate, hphases, hcleared, hcommit _⟩

end Codemod
