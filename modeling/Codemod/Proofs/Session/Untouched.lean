import Codemod.Proofs.Overlay.Commit
import Codemod.Proofs.Updater
import Codemod.Session

/-!
# Runs that change nothing

A run rewrites no file on its own account. Where plugins only look on, every file gets back the very
text it was read from, however its format would lay it out; putting that text into an overlay
without records makes none, so that there is nothing to announce and nothing to commit.

## Main definitions

* `Pass.Untouched` — a pass with idle plugins over an overlay that stays as it is.
* `Session.Run.IsQuiet` — no record is left and no file was announced.

## Main results

* `Pass.Untouched.begin`, `Pass.Untouched.merge` — the two halves of a turn.
* `Pass.Untouched.turns` — all turns.
* `Session.update_untouched` — a whole run, and the commit after it.
-/

namespace Codemod

/-! ## Overlays without records -/

namespace Overlay

variable {o : Overlay}

theorem record?_of_no_records (h : o.records = []) (path : String) : o.record? path = none := by
  simp [record?, h]

/-- Giving a path the content that it has makes no record. -/
theorem add_of_read? (h : o.records = []) {path content : String}
    (hr : o.read? path = some content) : o.add path content = o := by
  have horiginal : o.original (Path.normalize path) = content := by
    rw [read?, current?, o.record?_of_no_records h] at hr
    simp [original, hr]
  obtain ⟨c, hc, -⟩ | ⟨-, -, hsame⟩ | ⟨-, hne, -⟩ := o.add_cases path content
  · simp [o.record?_of_no_records h] at hc
  · exact hsame
  · exact absurd horiginal hne

theorem events_of_no_records (h : o.records = []) : o.events = [] := by
  rw [events, changes_of_no_records h, List.map_nil]

theorem commit_of_no_records (h : o.records = []) (d : Disk) : o.commit d = (d, o, .ok {}) := by
  rw [commit, changes_of_no_records h]
  simp [commitAll, ← h]

end Overlay

/-! ## Turns -/

/-- Idle updaters hand back the text they were given. -/
theorem dispatch_idle {updaters updaters' : List Updater} {path src : String} {h h' : Host}
    {r : Except Failure String} (hidle : ∀ u ∈ updaters, u.IsIdle)
    (hd : dispatch path src updaters h = some (r, updaters', h')) :
    (∀ text, r = .ok text → text = src) ∧ (∀ u ∈ updaters', u.IsIdle) ∧
      h'.overlay = h.overlay := by
  induction updaters generalizing updaters' with
  | nil => cases hd
  | cons u rest ih =>
    rw [List.forall_mem_cons] at hidle
    rw [dispatch] at hd
    split at hd
    · cases hd
      obtain ⟨htext, hu, hsame⟩ := Updater.update_idle hidle.1 path src h
      exact ⟨htext, List.forall_mem_cons.mpr ⟨hu, hidle.2⟩, hsame⟩
    · obtain ⟨⟨r, us, h'⟩, hrest, heq⟩ := Option.map_eq_some_iff.mp hd
      cases heq
      obtain ⟨htext, hus, hsame⟩ := ih hidle.2 hrest
      exact ⟨htext, List.forall_mem_cons.mpr ⟨hidle.1, hus⟩, hsame⟩

namespace Pass

/-- All updaters are idle, and the overlay is still `o`. -/
structure Untouched (o : Overlay) (p : Pass) : Prop where
  overlay_eq : p.overlay = o
  idle : ∀ u ∈ p.updaters, u.IsIdle

namespace Untouched

variable {o : Overlay} {p : Pass}

/-- The content that comes back is the one that the overlay has already. -/
theorem transform (h : p.Untouched o) (onError : OnError) (path : String) :
    (p.transform onError path).2.Untouched o ∧
      ∀ c, (p.transform onError path).1 = .ok (some c) → o.read? path = some c := by
  unfold Pass.transform
  rw [h.overlay_eq]
  split
  · exact ⟨h, by simp⟩
  next src hsrc =>
    split
    · refine ⟨h, fun c hc => ?_⟩
      cases hc
      exact hsrc
    next hd =>
      obtain ⟨htext, hidle, hsame⟩ := dispatch_idle h.idle hd
      refine ⟨⟨hsame.trans h.overlay_eq, hidle⟩, fun c hc => ?_⟩
      cases hc
      rw [hsrc, htext _ rfl]
    next hd =>
      obtain ⟨-, hidle, hsame⟩ := dispatch_idle h.idle hd
      cases onError <;> exact ⟨⟨hsame.trans h.overlay_eq, hidle⟩, by simp⟩

theorem signal (h : p.Untouched o) (flag : Option Bool) : (p.signal flag).Untouched o := by
  cases flag <;> exact ⟨h.overlay_eq, h.idle⟩

/-- The first half of a turn. -/
theorem begin (h : p.Untouched o) (onError : OnError) (signals : Signals) (i : Nat)
    (f : ProjectFile) :
    (p.begin onError signals i f).2.Untouched o ∧
      ∀ c, (p.begin onError signals i f).1 = .ok (some c) → o.read? f.path = some c := by
  unfold Pass.begin
  cases f.binary with
  | true => exact ⟨h.signal _, by simp⟩
  | false =>
    obtain ⟨hp, hc⟩ := h.transform onError f.path
    exact ⟨hp.signal _, hc⟩

/-- The second half of a turn. -/
theorem merge (h : p.Untouched o) (ho : o.records = []) {path : String} {content : Option String}
    (hc : ∀ c, content = some c → o.read? path = some c) : (p.merge path content).Untouched o := by
  cases content with
  | none => exact h
  | some c =>
    refine ⟨?_, h.idle⟩
    change p.overlay.add path c = o
    rw [h.overlay_eq]
    exact Overlay.add_of_read? ho (hc c rfl)

theorem turns (h : p.Untouched o) (ho : o.records = []) (onError : OnError) (signals : Signals)
    (total i : Nat) (files : List ProjectFile) :
    (turns onError signals total i files p).2.1.Untouched o := by
  induction files generalizing i p with
  | nil => exact h
  | cons f rest ih =>
    obtain ⟨hp, hc⟩ := h.begin onError signals i f
    rw [Codemod.turns]
    split
    next hbegin =>
      rw [hbegin] at hp
      exact hp
    next content q hbegin =>
      rw [hbegin] at hp hc
      split
      · exact hp
      · exact ih (hp.merge ho fun c hcontent => hc c (by rw [hcontent])) (i + 1)

end Untouched

end Pass

/-- Turns announce progress only. -/
theorem isFile_of_mem_turns {onError : OnError} {signals : Signals} {total i : Nat}
    {files : List ProjectFile} {p : Pass} {e : Event}
    (he : e ∈ (turns onError signals total i files p).1) : e.isFile = false := by
  induction files generalizing i p with
  | nil => simp [turns] at he
  | cons f rest ih =>
    rw [turns] at he
    split at he
    · simp at he
    · split at he
      · simp at he
      · rcases List.mem_cons.mp he with rfl | he
        · rfl
        · exact ih he

/-! ## Runs -/

namespace Session

theorem records_of_readAll {d : Disk} {o o' : Overlay} {paths : List String}
    (h : readAll d o paths = .ok o') : o'.records = o.records := by
  fun_induction readAll d o paths with
  | case1 o =>
    cases h
    rfl
  | case2 => cases h
  | case3 o path rest place b hb ih => exact (ih h).trans rfl

/-- The run leaves no record and has announced no file. -/
structure Run.IsQuiet (r : Run) : Prop where
  records : r.session.overlay.records = []
  events : ∀ e ∈ r.events, e.isFile = false

theorem isFile_append_singleton {events : List Event} {e : Event}
    (h : ∀ x ∈ events, x.isFile = false) (he : e.isFile = false) :
    ∀ x ∈ events ++ [e], x.isFile = false := by
  intro x hx
  rcases List.mem_append.mp hx with hx | hx
  · exact h x hx
  · rwa [List.mem_singleton.mp hx]

/-- A failure leaves no record, whatever the run has done before it. -/
theorem isQuiet_fail (s : Session) {events : List Event} (he : ∀ e ∈ events, e.isFile = false)
    (notes : List Json) (f : Failure) : (s.fail events notes f).IsQuiet :=
  ⟨rfl, isFile_append_singleton he rfl⟩

theorem isQuiet_transformAll {s : Session} (hidle : ∀ u ∈ s.updaters, u.IsIdle)
    (ho : s.overlay.records = []) (signals : Signals) {events : List Event}
    (he : ∀ e ∈ events, e.isFile = false) : (s.transformAll signals events).IsQuiet := by
  have hstart : Pass.Untouched s.overlay
      { updaters := s.updaters, host := { overlay := s.overlay, canceled := s.canceled } } :=
    ⟨rfl, hidle⟩
  have hend := hstart.turns ho s.onError signals s.overlay.files.length 0 s.overlay.files
  have hprogress : ∀ e ∈ events ++ [phase "Updating files..."] ++
      (turns s.onError signals s.overlay.files.length 0 s.overlay.files
        { updaters := s.updaters,
          host := { overlay := s.overlay, canceled := s.canceled } }).1, e.isFile = false := by
    intro e hmem
    rcases List.mem_append.mp hmem with hmem | hmem
    · exact isFile_append_singleton he rfl e hmem
    · exact isFile_of_mem_turns hmem
  have hrecords := hend.overlay_eq ▸ ho
  have hannounced := Overlay.events_of_no_records hrecords
  unfold transformAll
  dsimp only
  split
  · exact isQuiet_fail _ hprogress _ _
  · rw [hannounced, List.append_nil]
    exact ⟨hrecords, isFile_append_singleton hprogress rfl⟩
  · rw [hannounced, List.append_nil]
    exact ⟨hrecords, isFile_append_singleton hprogress rfl⟩

theorem isIdle_reset {s : Session} (hidle : ∀ u ∈ s.updaters, u.IsIdle) :
    ∀ u ∈ s.reset.updaters, u.IsIdle := by
  intro u hu
  obtain ⟨v, hv, rfl⟩ := List.mem_map.mp hu
  exact hidle v hv

theorem isQuiet_update {s : Session} (hidle : ∀ u ∈ s.updaters, u.IsIdle) (d : Disk)
    (signals : Signals) : (s.update d signals).IsQuiet := by
  have hbegun : ∀ e ∈ [phase "Initializing..."], e.isFile = false := by
    simp [phase, Event.isFile, Event.isProgress]
  unfold update
  dsimp only
  split
  · split
    · exact isQuiet_fail _ hbegun _ _
    · have hreading := isFile_append_singleton hbegun (e := phase "Reading files...") rfl
      split
      · exact isQuiet_fail _ hreading _ _
      next hread =>
        refine isQuiet_transformAll ?_ ?_ signals hreading
        · exact isIdle_reset hidle
        · exact records_of_readAll hread
  · exact ⟨rfl, by simp [phase, Event.isFile, Event.isProgress]⟩

theorem commit_of_no_records {s : Session} (h : s.overlay.records = []) (d : Disk) :
    s.commit d = (d, s, .ok {}) := by
  rw [commit, Overlay.commit_of_no_records h]

/-- Where all plugins leave the documents and the project alone, a run ends without changes and
announces no file, whatever the files are like, whether the run fails, is canceled or goes to its
end; and a commit after it has nothing to report and leaves every disk as it is. -/
theorem update_untouched (s : Session) (hidle : ∀ u ∈ s.updaters, u.IsIdle) (d : Disk)
    (signals : Signals) :
    (s.update d signals).session.changes = [] ∧
      (∀ e ∈ (s.update d signals).events, e.isFile = false) ∧
      ∀ d', (s.update d signals).session.commit d' =
        (d', (s.update d signals).session, .ok {}) := by
  have hquiet := isQuiet_update hidle d signals
  exact ⟨Overlay.changes_of_no_records hquiet.records, hquiet.events,
    commit_of_no_records hquiet.records⟩

end Session

namespace Sample

/-- Looks at the file it is given, and leaves it at that. -/
def onlooker : Plugin N :=
  fun _ path => .read path fun _ => .note .null (.done (.ok .unchanged))

theorem isIdle_onlooker : (onlooker : Plugin N).IsIdle :=
  ⟨fun _ _ _ => rfl, fun _ _ _ => trivial⟩

def session : Session :=
  { updaters := [
      { kind := .json, format := .json, plugins := [onlooker, onlooker] },
      { kind := .markup, format := .markup, plugins := [onlooker] },
      { kind := .text, format := .text, plugins := [onlooker] }]
    overlay := { root := "proj" } }

theorem isIdle_session : ∀ u ∈ session.updaters, u.IsIdle := by
  simp [session, Updater.IsIdle, isIdle_onlooker]

/-- A document without line breaks, which no format would write. -/
def compact : String :=
  "\x7b\"a\":   1\x7d"

def project : Disk :=
  { entries := [(["proj"], .folder), (["proj", "a.json"], .file (Bytes.ofText compact))] }

end Sample

/-- The document is read and handed to both plugins of its updater, it would be laid out anew, and
yet it stays as it is. -/
theorem Session.update_untouched_compact :
    (Sample.session.update Sample.project .none).notes.length = 2 ∧
      (Format.json.parse "a.json" Sample.compact).1.toOption.map
        (Format.json.parse "a.json" Sample.compact).2.render = some "\x7b\n  \"a\": 1\n\x7d\n" ∧
      (Sample.session.update Sample.project .none).session.changes = [] ∧
      ((Sample.session.update Sample.project .none).session.commit Sample.project).1 =
        Sample.project := by
  obtain ⟨hchanges, -, hcommit⟩ :=
    Session.update_untouched Sample.session Sample.isIdle_session Sample.project .none
  exact ⟨by decide +kernel, by decide +kernel, hchanges, by rw [hcommit]⟩

end Codemod
