import Codemod.Proofs.Overlay.Listing
import Codemod.Proofs.Session.Events

/-!
# Files that are skipped

A file whose turn fails can be skipped: it is noted, and the run goes on with the next file. Nothing
is merged then. The edits that plugins have made through their host before the failure are edits
like all others, and they stay; but a path that no plugin has edited during the turn is as it was,
and so is the whole project if the document could not be read, or not be written untouched, so that
no plugin was asked.

## Main definitions

* `Pass.Fails`, `Pass.FailsAtOnce` — the turn of a file comes to a failure.
* `Overlay.AgreesAt` — two overlays cannot be told apart at a path.
* `Turn.skip?` — the note that a turn leaves.

## Main results

* `Updater.update_error_cases` — the failures of a document.
* `Turn.skipped_stop`, `skipped_turns` — the notes of a turn and of all turns.
* `Turn.skip_keeps_unedited` — what a failed turn leaves behind.
-/

namespace Codemod

/-! ## Overlays at one path -/

namespace Overlay

/-- At this path the overlays cannot be told apart. -/
structure AgreesAt (o o' : Overlay) (path : String) : Prop where
  change : o'.change? path = o.change? path
  read : o'.read? path = o.read? path
  contains : o'.contains path = o.contains path
  listed : ∀ dir recursive,
    Path.normalize path ∈ o'.list dir recursive ↔ Path.normalize path ∈ o.list dir recursive

theorem AgreesAt.refl (o : Overlay) (path : String) : o.AgreesAt o path :=
  ⟨rfl, rfl, rfl, fun _ _ => Iff.rfl⟩

/-- All that can be seen of a path is in its record and in its content. -/
theorem AgreesAt.of_change_of_read {o o' : Overlay} {path : String}
    (hchange : o'.change? path = o.change? path) (hread : o'.read? path = o.read? path) :
    o.AgreesAt o' path := by
  refine ⟨hchange, hread, by rw [Overlay.contains, hread, Overlay.contains],
    fun dir recursive => ?_⟩
  have hcurrent : o'.current? (Path.normalize path) = o.current? (Path.normalize path) := hread
  rw [mem_list, mem_list, hcurrent]

theorem record?_editAll_of_ne (o : Overlay) {es : List Edit} {path : String}
    (h : ∀ e ∈ es, e.target ≠ path) : (o.editAll es).record? path = o.record? path := by
  induction es generalizing o with
  | nil => rfl
  | cons e es ih =>
    rw [List.forall_mem_cons] at h
    exact (ih (o.edit e) h.2).trans (record?_edit_of_ne o h.1)

/-- Edits of other paths cannot be seen at a path. -/
theorem agreesAt_editAll (o : Overlay) {es : List Edit} {path : String}
    (h : ∀ e ∈ es, e.target ≠ Path.normalize path) : o.AgreesAt (o.editAll es) path :=
  .of_change_of_read (o.record?_editAll_of_ne h) (o.read?_editAll_of_ne h)

end Overlay

/-! ## Failures -/

/-- A failure of plugins names the document and the plugin that gave up. -/
theorem runPlugins_error {path : String} {index : Nat} {plugins : List (Plugin N)} {node : N}
    {h : Host} {e : Failure} (he : (runPlugins path index plugins node h).1 = .error e) :
    ∃ k reasons, e = .plugin path k reasons := by
  induction plugins generalizing index node h with
  | nil => cases he
  | cons p rest ih =>
    rw [runPlugins] at he
    split at he
    next reasons _ _ => exact ⟨index, reasons, (Except.error.inj he).symm⟩
    · exact ih he
    · exact ih he
    · cases he

/-- What is not written is said to be so. -/
theorem Format.serialize_error {k : Kind} {f : Format k} {w : Writer k} {path : String}
    {node : k.Node} {e : Failure} (he : f.serialize w path node = .error e) :
    ∃ message, e = .serialize path k.name message := by
  rw [serialize] at he
  cases hw : w f.layout path node with
  | error message => exact ⟨message, (Except.error.inj (hw ▸ he)).symm⟩
  | ok text =>
    rw [hw] at he
    cases he

namespace Updater

variable {u : Updater} {path src : String} {h : Host} {e : Failure}

/-- A document fails before the first plugin, in a plugin, or when it is written at the end. -/
theorem update_error_cases (he : (u.update path src h).1 = .error e) :
    (u.prepare path src).1 = .error e ∨ (∃ k reasons, e = .plugin path k reasons) ∨
      ∃ message, e = .serialize path u.name message := by
  rw [update] at he
  rcases hprepared : u.prepare path src with ⟨f | ⟨roundTrip, node⟩, format⟩
  · rw [hprepared] at he
    exact .inl (congrArg Except.error (Except.error.inj he))
  · rw [hprepared] at he
    dsimp only at he
    rcases hrun : runPlugins path 0 u.plugins node h with ⟨f | (result | _), h'⟩
    · rw [hrun] at he
      obtain rfl : f = e := Except.error.inj he
      exact .inr (.inl (runPlugins_error (congrArg Prod.fst hrun)))
    · rw [hrun] at he
      dsimp only at he
      cases hw : format.serialize u.writer path result with
      | error f =>
        rw [hw] at he
        obtain rfl : f = e := Except.error.inj he
        exact .inr (.inr (Format.serialize_error hw))
      | ok text =>
        rw [hw] at he
        cases he
    · rw [hrun] at he
      cases he

/-- A document that cannot be read fails before the first plugin. -/
theorem prepare_of_parse_error {format message : String}
    (he : (u.update path src h).1 = .error (.parse path format message)) :
    (u.prepare path src).1 = .error (.parse path format message) := by
  obtain hprepared | ⟨k, reasons, heq⟩ | ⟨message', heq⟩ := update_error_cases he
  · exact hprepared
  · cases heq
  · cases heq

theorem edits_of_prepare_error (he : (u.prepare path src).1 = .error e) :
    u.edits path src h = [] := by
  rw [edits, he]

end Updater

/-! ## Turns that fail -/

namespace Pass

/-- The updater that claims the file cannot do its work. -/
def Fails (p : Pass) (f : ProjectFile) (e : Failure) : Prop :=
  f.binary = false ∧ ∃ src updaters host, p.overlay.read? f.path = some src ∧
    dispatch f.path src p.updaters p.host = some (.error e, updaters, host)

/-- The updater that claims the file cannot read it, or cannot write it untouched, so that no plugin
is asked. -/
def FailsAtOnce (p : Pass) (f : ProjectFile) : Prop :=
  ∃ src u e, p.overlay.read? f.path = some src ∧
    p.updaters.find? (·.supports f.path) = some u ∧ (u.prepare f.path src).1 = .error e

/-- The note that the turn of a file leaves if it fails. -/
def skip? (p : Pass) (f : ProjectFile) : Option Skipped :=
  match f.binary, p.overlay.read? f.path with
  | false, some src =>
    match dispatch f.path src p.updaters p.host with
    | some (.error e, _, _) => some { path := f.path, reason := e.message }
    | _ => none
  | _, _ => none

variable {p : Pass} {f : ProjectFile}

theorem path_of_skip? {x : Skipped} (h : p.skip? f = some x) : x.path = f.path := by
  rw [skip?] at h
  split at h
  · split at h
    · exact (congrArg Skipped.path (Option.some.inj h)).symm
    · cases h
  · cases h

theorem Fails.skip?_eq {e : Failure} (h : p.Fails f e) :
    p.skip? f = some { path := f.path, reason := e.message } := by
  obtain ⟨hbinary, src, updaters, host, hsrc, hd⟩ := h
  simp only [skip?, hbinary, hsrc, hd]

theorem FailsAtOnce.edits_eq_nil (h : p.FailsAtOnce f) : p.edits f = [] := by
  obtain ⟨src, u, e, hsrc, hu, he⟩ := h
  cases hbinary : f.binary with
  | true => rw [edits, hbinary]
  | false =>
    rw [edits, hbinary, hsrc]
    dsimp only
    rw [dispatchEdits, hu]
    exact Updater.edits_of_prepare_error he

/-- A document that cannot be read fails at once. -/
theorem Fails.atOnce {format message : String} (h : p.Fails f (.parse f.path format message)) :
    p.FailsAtOnce f := by
  obtain ⟨-, src, updaters, host, hsrc, hd⟩ := h
  obtain ⟨u, hu, hresult, -⟩ := exists_updater_of_dispatch hd
  exact ⟨src, u, _, hsrc, hu, Updater.prepare_of_parse_error hresult⟩

@[simp] theorem skipped_signal (p : Pass) (flag : Option Bool) :
    (p.signal flag).skipped = p.skipped := by
  cases flag <;> rfl

@[simp] theorem skipped_merge (p : Pass) (path : String) (content : Option String) :
    (p.merge path content).skipped = p.skipped := by
  cases content <;> rfl

variable (p f) (signals : Signals) (i : Nat)

/-- Where failures are skipped, the first half of a turn never fails, and adds the note that the
turn leaves. -/
theorem begin_skipFile :
    (∃ content, (p.begin .skipFile signals i f).1 = .ok content) ∧
      (p.begin .skipFile signals i f).2.skipped = p.skipped ++ (p.skip? f).toList := by
  rw [begin, skip?, skipped_signal]
  cases f.binary with
  | true => exact ⟨⟨none, rfl⟩, (List.append_nil _).symm⟩
  | false =>
    rw [if_neg Bool.false_ne_true, transform]
    cases p.overlay.read? f.path with
    | none => exact ⟨⟨none, rfl⟩, (List.append_nil _).symm⟩
    | some src =>
      dsimp only
      rcases dispatch f.path src p.updaters p.host with _ | ⟨e | content, updaters, host⟩
      · exact ⟨⟨some src, rfl⟩, (List.append_nil _).symm⟩
      · exact ⟨⟨none, rfl⟩, rfl⟩
      · exact ⟨⟨some content, rfl⟩, (List.append_nil _).symm⟩

/-- A failure leaves nothing to merge. -/
theorem Fails.begin_skipFile {p : Pass} {f : ProjectFile} {e : Failure} (h : p.Fails f e) :
    (p.begin .skipFile signals i f).1 = .ok none := by
  obtain ⟨hbinary, src, updaters, host, hsrc, hd⟩ := h
  simp [begin, transform, hbinary, hsrc, hd]

end Pass

namespace Turn

/-- The note that the turn leaves if it fails. -/
def skip? (t : Turn) : Option Skipped :=
  t.start.skip? t.file

variable (signals : Signals) (i : Nat) (f : ProjectFile) (p : Pass)

theorem skipped_stop :
    (Turn.begin .skipFile signals i f p).stop.skipped =
      p.skipped ++ (Turn.begin .skipFile signals i f p).skip?.toList := by
  rw [stop, Pass.skipped_merge]
  exact (p.begin_skipFile f signals i).2

/-- A turn that fails does nothing to the overlay but what its plugins have done. -/
theorem overlay_stop_of_fails {p : Pass} {f : ProjectFile} {e : Failure} (h : p.Fails f e) :
    (Turn.begin .skipFile signals i f p).stop.overlay =
      p.overlay.editAll (Turn.begin .skipFile signals i f p).edits := by
  have hmerged : (Turn.begin .skipFile signals i f p).merged? = none := by
    have hresult : (Turn.begin .skipFile signals i f p).result = .ok none :=
      h.begin_skipFile signals i
    simp [merged?, hresult]
  rw [overlay_stop, allEdits, hmerged]
  simp

end Turn

/-! ## The notes of a run -/

section Notes

variable (signals : Signals) (total i : Nat) (files : List ProjectFile) (p : Pass)

/-- The turns leave their notes in order. -/
theorem skipped_turns :
    (turns .skipFile signals total i files p).2.1.skipped =
      p.skipped ++ (course .skipFile signals i files p).filterMap Turn.skip? := by
  induction files generalizing i p with
  | nil => exact (List.append_nil _).symm
  | cons f rest ih =>
    have hstop := Turn.skipped_stop signals i f p
    have hcons (l : List Turn) :
        (Turn.begin .skipFile signals i f p :: l).filterMap Turn.skip? =
          (Turn.begin .skipFile signals i f p).skip?.toList ++ l.filterMap Turn.skip? := by
      rw [List.filterMap_cons]
      cases (Turn.begin .skipFile signals i f p).skip? <;> rfl
    rw [course]
    cases h : (Turn.begin .skipFile signals i f p).isCompleted with
    | true =>
      rw [turns_of_completed total rest rfl h]
      dsimp only
      rw [ih, hstop, hcons, List.append_assoc, if_pos rfl]
    | false =>
      rw [turns_of_not_completed total rest rfl h]
      simp [hstop, hcons]

/-- Where failures are skipped, the turns do not fail. -/
theorem turns_skipFile_ne_failed (e : Failure) :
    (turns .skipFile signals total i files p).2.2 ≠ .failed e := by
  induction files generalizing i p with
  | nil => simp [turns]
  | cons f rest ih =>
    obtain ⟨content, hcontent⟩ := (p.begin_skipFile f signals i).1
    rcases hbegin : p.begin .skipFile signals i f with ⟨r, q⟩
    obtain rfl : r = .ok content := by rwa [hbegin] at hcontent
    rw [turns, hbegin]
    dsimp only
    split
    · simp
    · exact ih (i + 1) _

/-- Files have their turns in order. -/
theorem map_file_course (onError : OnError) :
    (course onError signals i files p).map Turn.file <+: files := by
  induction files generalizing i p with
  | nil => exact List.prefix_rfl
  | cons f rest ih =>
    rw [course, List.map_cons]
    refine (List.prefix_cons_inj f).mpr ?_
    split
    · exact ih (i + 1) _
    · exact List.nil_prefix

theorem map_path_skips_sublist (ts : List Turn) :
    ((ts.filterMap Turn.skip?).map (·.path)).Sublist (ts.map (·.file.path)) := by
  induction ts with
  | nil => exact .slnil
  | cons t ts ih =>
    cases h : t.skip? with
    | none => simpa [h] using ih.cons t.file.path
    | some x =>
      have hpath : x.path = t.file.path := Pass.path_of_skip? h
      simpa [h, hpath] using ih.cons_cons t.file.path

end Notes

namespace Session

theorem valid_snapshot {s : Session} {d : Disk} {o : Overlay} (h : s.snapshot d = .ok o) :
    o.Valid := by
  obtain ⟨files, -, rfl⟩ := snapshot_ok h
  exact Overlay.valid_ofFiles s.root files

/-- A run notes the files whose turns have failed, in order. -/
theorem skipped_update {s : Session} {d : Disk} {signals : Signals} {o : Overlay}
    (hskip : s.onError = .skipFile) (ho : s.snapshot d = .ok o) :
    (s.update d signals).session.skipped = (s.course d signals).filterMap Turn.skip? := by
  have hnotes := skipped_turns signals o.files.length 0 o.files (s.firstPass o)
  have hended := turns_skipFile_ne_failed signals o.files.length 0 o.files (s.firstPass o)
  rw [course, ho]
  dsimp only
  rw [hskip]
  refine Eq.trans ?_ hnotes
  obtain ⟨hfolder, -⟩ | ⟨-, f, events, hno, -⟩ |
    ⟨-, o', done, p, ending, ho', hturns, hupdate⟩ := s.update_cases d signals
  · simp [snapshot, hfolder] at ho
  · cases ho.symm.trans hno
  · obtain rfl : o = o' := Except.ok.inj (ho.symm.trans ho')
    rw [hskip] at hturns
    rw [hturns] at hended ⊢
    rw [hupdate]
    cases ending with
    | failed f => exact absurd rfl (hended f)
    | canceled => rfl
    | finished => rfl

/-- No file is noted twice. -/
theorem skipped_nodup {s : Session} {d : Disk} {signals : Signals} {o : Overlay}
    (hskip : s.onError = .skipFile) (ho : s.snapshot d = .ok o) :
    ((s.update d signals).session.skipped.map (·.path)).Nodup := by
  have hfiles := map_file_course signals 0 o.files (s.firstPass o) s.onError
  have hpaths := (hfiles.sublist.map (·.path))
  rw [List.map_map] at hpaths
  rw [skipped_update hskip ho, course, ho]
  exact (valid_snapshot ho).files_nodup.sublist ((map_path_skips_sublist _).trans hpaths)

end Session

/-- Where failures are skipped, the turn of a file that fails adds one note, and in a run of which
it is a turn that note is the only one about the file. The turn itself puts nothing into the
overlay. A path that no plugin has edited during the turn has the same record, and is read and
listed as before; the overlay as a whole is the same if no plugin has edited anything, which is so
if the document cannot be read, or cannot be written untouched. The edits that plugins have made to
other files before the failure, be it one of a plugin or of writing the document at the end, are
kept. -/
theorem Turn.skip_keeps_unedited (signals : Signals) (i : Nat) {p : Pass} {f : ProjectFile}
    {e : Failure} (h : p.Fails f e) :
    let t := Turn.begin .skipFile signals i f p
    t.stop.skipped = p.skipped ++ [{ path := f.path, reason := e.message }] ∧
      (∀ (s : Session) (d : Disk) (o : Overlay), s.onError = .skipFile → s.snapshot d = .ok o →
        t ∈ s.course d signals →
          { path := f.path, reason := e.message } ∈ (s.update d signals).session.skipped ∧
            ((s.update d signals).session.skipped.map (·.path)).Nodup) ∧
      (∀ path, (∀ x ∈ t.edits, x.target ≠ Path.normalize path) →
        p.overlay.AgreesAt t.stop.overlay path) ∧
      (t.edits = [] → t.stop.overlay = p.overlay) ∧
      (p.FailsAtOnce f → t.edits = [] ∧ t.stop.overlay = p.overlay) ∧
      (∀ format message, e = .parse f.path format message → p.FailsAtOnce f) ∧
      ∀ path, Path.normalize path ≠ Path.normalize f.path →
        (p.overlay.editAll t.edits).AgreesAt t.stop.overlay path := by
  intro t
  have hoverlay : t.stop.overlay = p.overlay.editAll t.edits := overlay_stop_of_fails signals i h
  have hskip : t.skip? = some { path := f.path, reason := e.message } := h.skip?_eq
  have hquiet (hedits : t.edits = []) : t.stop.overlay = p.overlay := by
    rw [hoverlay, hedits]
    rfl
  refine ⟨?_, fun s d o hs ho hmem => ?_, fun path hpath => ?_, hquiet, fun honce => ?_, ?_,
    fun path _ => ?_⟩
  · rw [skipped_stop, hskip]
    rfl
  · refine ⟨?_, Session.skipped_nodup hs ho⟩
    rw [Session.skipped_update hs ho]
    exact List.mem_filterMap.mpr ⟨t, hmem, hskip⟩
  · rw [hoverlay]
    exact p.overlay.agreesAt_editAll hpath
  · exact ⟨honce.edits_eq_nil, hquiet honce.edits_eq_nil⟩
  · rintro format message rfl
    exact h.atOnce
  · rw [hoverlay]
    exact .refl _ path

namespace Sample

/-- A session that skips the files on which its plugin gives up. -/
def skipping : Session :=
  { quitting with onError := .skipFile }

/-- What the turn of the only file finds. -/
def begun : Pass :=
  skipping.firstPass { root := "proj", files := [⟨"a.txt", "x\n", false⟩] }

theorem fails_begun : begun.Fails ⟨"a.txt", "x\n", false⟩ (.plugin "a.txt" 0 ["no"]) := by
  have hdispatch : (dispatch "a.txt" "x\n" begun.updaters begun.host).map (·.1) =
      some (.error (.plugin "a.txt" 0 ["no"])) := by
    decide +kernel
  obtain ⟨⟨r, updaters, host⟩, hd, hr⟩ := Option.map_eq_some_iff.mp hdispatch
  obtain rfl : r = .error (.plugin "a.txt" 0 ["no"]) := hr
  exact ⟨rfl, "x\n", updaters, host, rfl, hd⟩

/-- Here a plugin edits another file and replaces the document by one that cannot be written. -/
def unwritable : Pass :=
  { updaters := [{
      kind := .text
      format := .text
      plugins := [fun _ _ => .add "b.txt" "y\n" (.done (.ok (.replace ["z"])))]
      writer := fun layout path lines =>
        if lines = ["z"] then .error "no" else Writer.standard layout path lines }]
    host := { overlay := { root := "proj", files := [⟨"a.txt", "x\n", false⟩] } } }

end Sample

/-- The edit is kept also where the document fails only in the end. -/
example :
    let t := Turn.begin .skipFile .none 0 ⟨"a.txt", "x\n", false⟩ Sample.unwritable
    t.stop.skipped = [{ path := "a.txt", reason := "failed to serialize a.txt as text: no" }] ∧
      t.stop.overlay.read? "b.txt" = some "y\n" ∧ t.stop.overlay.change? "a.txt" = none := by
  decide +kernel

/-- The plugin has edited another file before it gave up; the file whose turn it was is noted and
stays as it is. -/
theorem Turn.skip_keeps_unedited_quitter :
    let t := Turn.begin .skipFile .none 0 ⟨"a.txt", "x\n", false⟩ Sample.begun
    t.edits.map Edit.target = ["b.txt"] ∧
      t.stop.skipped = [{ path := "a.txt", reason := "plugin #0 failed on a.txt: no" }] ∧
      t.stop.overlay.read? "a.txt" = some "x\n" ∧
      t.stop.overlay.change? "a.txt" = none := by
  intro t
  have hedits : t.edits.map Edit.target = ["b.txt"] := by decide +kernel
  have hothers : ∀ x ∈ t.edits, x.target ≠ Path.normalize "a.txt" := by
    intro x hx
    have hx : x.target ∈ ["b.txt"] := hedits ▸ List.mem_map_of_mem hx
    rw [List.mem_singleton.mp hx]
    decide
  obtain ⟨hskipped, -, hunedited, -⟩ := Turn.skip_keeps_unedited .none 0 Sample.fails_begun
  have hsame := hunedited "a.txt" hothers
  exact ⟨hedits, hskipped, hsame.read, hsame.change⟩

/-- A plugin edits another file and then gives up. The file whose turn it was is skipped, but the
edit is not taken back: the other file can be read after the turn, and is among the changes at the
end of the run. -/
theorem Turn.skip_keeps_edit_of_failed :
    let t := Turn.begin .skipFile .none 0 ⟨"a.txt", "x\n", false⟩ Sample.begun
    Sample.begun.Fails t.file (.plugin "a.txt" 0 ["no"]) ∧
      Sample.begun.overlay.read? "b.txt" = none ∧ t.stop.overlay.read? "b.txt" = some "y\n" ∧
      (Sample.skipping.update (Sample.texts ["a.txt"]) .none).session.skipped =
        [{ path := "a.txt", reason := "plugin #0 failed on a.txt: no" }] ∧
      (Sample.skipping.update (Sample.texts ["a.txt"]) .none).session.changes =
        [{ path := "b.txt", before := "", content := "y\n" }] :=
  ⟨Sample.fails_begun, by decide +kernel⟩

end Codemod
