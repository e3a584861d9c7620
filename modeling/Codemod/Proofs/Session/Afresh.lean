import Codemod.Proofs.Session.Course

/-!
# Runs start afresh

A session remembers things from one run to the next: its overlay and what was skipped, the wish to
cancel, and in every updater what its format has kept of the latest documents. A run forgets the
first three before it begins, but only part of the last. What is left of it does no harm, since
every document is read before it is written, and reading a document overwrites all that writing it
will look at. So a run depends on how its session was set up and on the disk, and on nothing else.

## Main definitions

* `Updater.setup`, `Session.setup` — what is decided before the first run.
* `Session.fresh` — the session as it was before its first run.
* `Session.Call` — what can be asked of a session.

## Main results

* `Format.parse_congr` — reading overwrites all that writing looks at.
* `turns_congr`, `Session.update_congr` — updaters with the same setup make the same run.
* `Session.setup_callAll` — no call changes the setup.
* `Session.update_forgets_history` — a run after any history is the run of a fresh session.
-/

namespace Codemod

/-! ## Updaters -/

/-- An updater without what it remembers. -/
structure Updater.Setup where
  kind : Kind
  matcher : Matcher
  settings : kind.Settings
  plugins : List (Plugin kind.Node)
  writer : Writer kind

def Updater.setup (u : Updater) : Updater.Setup :=
  ⟨u.kind, u.format.matcher, u.format.settings, u.plugins, u.writer⟩

namespace Format

/-- What is remembered after a document has been read can differ only in things that writing does
not look at. -/
theorem layout_parse_congr {k : Kind} {f g : Format k} (h : f.settings = g.settings)
    (path src : String) : (f.parse path src).2.layout = (g.parse path src).2.layout := by
  unfold parse
  rw [h]
  cases k <;> rfl

/-- Formats with the same settings read a document alike, and write it alike afterwards. -/
theorem parse_congr {k : Kind} {f g : Format k} (h : f.settings = g.settings)
    (path src : String) :
    (f.parse path src).1 = (g.parse path src).1 ∧
      ∀ w node, (f.parse path src).2.serialize w path node =
        (g.parse path src).2.serialize w path node := by
  refine ⟨?_, fun w node => ?_⟩
  · unfold parse
    rw [h]
  · rw [serialize, serialize, layout_parse_congr h]

/-- The format as it was before it read its first document. -/
def fresh : {k : Kind} → Format k → Format k
  | .text, f => .text f.matcher
  | .json, f => .json f.settings f.matcher
  | .markup, f => .markup f.settings f.matcher
  | .code, f => .code f.matcher f.settings

end Format

namespace Updater

def fresh (u : Updater) : Updater :=
  { u with format := u.format.fresh }

@[simp] theorem setup_fresh (u : Updater) : u.fresh.setup = u.setup := by
  obtain ⟨kind, format, plugins, writer⟩ := u
  cases kind <;> rfl

@[simp] theorem setup_reset (u : Updater) : u.reset.setup = u.setup := by
  obtain ⟨kind, format, plugins, writer⟩ := u
  cases kind <;> rfl

@[simp] theorem setup_update (u : Updater) (path src : String) (h : Host) :
    (u.update path src h).2.1.setup = u.setup := by
  rw [updater_update]
  rfl

theorem supports_congr {u v : Updater} (h : u.setup = v.setup) (path : String) :
    u.supports path = v.supports path :=
  congrArg (fun c : Setup => c.matcher.claims path) h

/-- Updaters with the same setup make the same of a document. -/
theorem update_congr {u v : Updater} (h : u.setup = v.setup) (path src : String) (host : Host) :
    (u.update path src host).1 = (v.update path src host).1 ∧
      (u.update path src host).2.2 = (v.update path src host).2.2 := by
  obtain ⟨kind, f, plugins, writer⟩ := u
  obtain ⟨kind', g, plugins', writer'⟩ := v
  obtain ⟨rfl, -, hsettings, rfl, rfl⟩ : kind = kind' ∧ f.matcher = g.matcher ∧
      HEq f.settings g.settings ∧ HEq plugins plugins' ∧ HEq writer writer' := by
    simpa [setup] using h
  obtain ⟨hnode, hwrite⟩ := Format.parse_congr (eq_of_heq hsettings) path src
  rw [update, update, prepare_eq, prepare_eq]
  rcases hf : f.parse path src with ⟨r, f'⟩
  rcases hg : g.parse path src with ⟨r', g'⟩
  rw [hf, hg] at hnode hwrite
  obtain rfl : r = r' := hnode
  dsimp only at hwrite
  cases r with
  | error e => exact ⟨rfl, rfl⟩
  | ok node =>
    dsimp only
    rw [hwrite]
    cases g'.serialize writer path node with
    | error e => exact ⟨rfl, rfl⟩
    | ok roundTrip =>
      dsimp only [Except.map]
      rcases runPlugins path 0 plugins node host with ⟨e | (result | _), host'⟩
      · exact ⟨rfl, rfl⟩
      · dsimp only
        rw [hwrite]
        cases g'.serialize writer path result <;> exact ⟨rfl, rfl⟩
      · exact ⟨rfl, rfl⟩

end Updater

/-! ## Turns -/

theorem setup_dispatch {path src : String} {us us' : List Updater} {h h' : Host}
    {r : Except Failure String} (hd : dispatch path src us h = some (r, us', h')) :
    us'.map Updater.setup = us.map Updater.setup := by
  induction us generalizing us' with
  | nil => cases hd
  | cons u rest ih =>
    rw [dispatch] at hd
    split at hd
    · obtain ⟨-, hus, -⟩ : _ ∧ (u.update path src h).2.1 :: rest = us' ∧ _ := by simpa using hd
      rw [← hus, List.map_cons, List.map_cons, Updater.setup_update]
    · obtain ⟨⟨r, us, h'⟩, hrest, heq⟩ := Option.map_eq_some_iff.mp hd
      cases heq
      rw [List.map_cons, List.map_cons, ih hrest]

theorem dispatch_congr {us vs : List Updater}
    (hsetup : us.map Updater.setup = vs.map Updater.setup) (path src : String) (h : Host) :
    (dispatch path src us h).map (fun x => (x.1, x.2.2)) =
      (dispatch path src vs h).map fun x => (x.1, x.2.2) := by
  induction us generalizing vs with
  | nil =>
    obtain rfl := List.map_eq_nil_iff.mp hsetup.symm
    rfl
  | cons u us ih =>
    obtain ⟨v, vs, rfl, hv, hvs⟩ := List.map_eq_cons_iff.mp hsetup.symm
    rw [dispatch, dispatch, Updater.supports_congr hv]
    split
    · obtain ⟨hresult, hhost⟩ := Updater.update_congr hv path src h
      simp only [Option.map_some, hresult, hhost]
    · rw [Option.map_map, Option.map_map]
      exact ih hvs.symm

namespace Pass

/-- The passes differ at most in what their updaters remember. -/
structure Alike (p q : Pass) : Prop where
  updaters : p.updaters.map Updater.setup = q.updaters.map Updater.setup
  host : p.host = q.host
  skipped : p.skipped = q.skipped

variable (p : Pass) (onError : OnError) (signals : Signals) (i : Nat) (f : ProjectFile)

theorem setup_transform (path : String) :
    (p.transform onError path).2.updaters.map Updater.setup = p.updaters.map Updater.setup := by
  rw [transform]
  split
  · rfl
  · split
    · rfl
    next hd => exact setup_dispatch hd
    next hd => cases onError <;> exact setup_dispatch hd

@[simp] theorem updaters_signal (flag : Option Bool) : (p.signal flag).updaters = p.updaters := by
  cases flag <;> rfl

@[simp] theorem updaters_merge (path : String) (content : Option String) :
    (p.merge path content).updaters = p.updaters := by
  cases content <;> rfl

theorem setup_begin :
    (p.begin onError signals i f).2.updaters.map Updater.setup = p.updaters.map Updater.setup := by
  rw [begin, updaters_signal]
  cases f.binary with
  | true => rfl
  | false => exact p.setup_transform onError f.path

variable {p} {q : Pass}

theorem Alike.transform (h : p.Alike q) (path : String) :
    (p.transform onError path).1 = (q.transform onError path).1 ∧
      (p.transform onError path).2.Alike (q.transform onError path).2 := by
  obtain ⟨us, host, skipped⟩ := p
  obtain ⟨vs, host', skipped'⟩ := q
  obtain ⟨hsetup, rfl, rfl⟩ := h
  dsimp only at hsetup
  unfold Pass.transform Pass.overlay
  dsimp only
  cases host.overlay.read? path with
  | none => exact ⟨rfl, hsetup, rfl, rfl⟩
  | some src =>
    have hsame := dispatch_congr hsetup path src host
    dsimp only
    cases hu : dispatch path src us host with
    | none =>
      rw [hu, Option.map_none, eq_comm, Option.map_eq_none_iff] at hsame
      rw [hsame]
      exact ⟨rfl, hsetup, rfl, rfl⟩
    | some x =>
      obtain ⟨r, us', h'⟩ := x
      rw [hu, Option.map_some, eq_comm, Option.map_eq_some_iff] at hsame
      obtain ⟨⟨r', vs', h''⟩, hv, heq⟩ := hsame
      cases heq
      have hsetup' : us'.map Updater.setup = vs'.map Updater.setup :=
        (setup_dispatch hu).trans (hsetup.trans (setup_dispatch hv).symm)
      rw [hv]
      cases r with
      | ok content => exact ⟨rfl, hsetup', rfl, rfl⟩
      | error e => cases onError <;> exact ⟨rfl, hsetup', rfl, rfl⟩

theorem Alike.signal (h : p.Alike q) (flag : Option Bool) :
    (p.signal flag).Alike (q.signal flag) := by
  cases flag with
  | none => exact h
  | some b => exact ⟨h.updaters, by rw [Pass.signal, Pass.signal, h.host], h.skipped⟩

theorem Alike.merge (h : p.Alike q) (path : String) (content : Option String) :
    (p.merge path content).Alike (q.merge path content) := by
  cases content with
  | none => exact h
  | some c =>
    refine ⟨h.updaters, ?_, h.skipped⟩
    simp only [Pass.merge, Pass.overlay, h.host]

theorem Alike.begin (h : p.Alike q) :
    (p.begin onError signals i f).1 = (q.begin onError signals i f).1 ∧
      (p.begin onError signals i f).2.Alike (q.begin onError signals i f).2 := by
  unfold Pass.begin
  cases f.binary with
  | true => exact ⟨rfl, h.signal _⟩
  | false =>
    obtain ⟨hresult, hpass⟩ := h.transform onError f.path
    exact ⟨hresult, hpass.signal _⟩

end Pass

section Turns

variable (onError : OnError) (signals : Signals) (total i : Nat) (files : List ProjectFile)

theorem setup_turns (p : Pass) :
    (turns onError signals total i files p).2.1.updaters.map Updater.setup =
      p.updaters.map Updater.setup := by
  induction files generalizing i p with
  | nil => rfl
  | cons f rest ih =>
    have hbegin := p.setup_begin onError signals i f
    rw [turns]
    split
    next heq => rwa [heq] at hbegin
    next content q heq =>
      rw [heq] at hbegin
      split
      · exact hbegin
      · have hrest := ih (i + 1) (q.merge f.path content)
        rw [Pass.updaters_merge] at hrest
        exact hrest.trans hbegin

/-- What happens in the turns does not depend on what updaters remember from before. -/
theorem turns_congr {p q : Pass} (h : p.Alike q) :
    (turns onError signals total i files p).1 = (turns onError signals total i files q).1 ∧
      (turns onError signals total i files p).2.1.Alike
        (turns onError signals total i files q).2.1 ∧
      (turns onError signals total i files p).2.2 =
        (turns onError signals total i files q).2.2 := by
  induction files generalizing i p q with
  | nil => exact ⟨rfl, h, rfl⟩
  | cons f rest ih =>
    obtain ⟨hresult, hpass⟩ := h.begin onError signals i f
    rw [turns, turns]
    rcases hp : p.begin onError signals i f with ⟨r, p'⟩
    rcases hq : q.begin onError signals i f with ⟨r', q'⟩
    rw [hp, hq] at hresult hpass
    dsimp only at hresult hpass
    subst hresult
    cases r with
    | error e => exact ⟨rfl, hpass, rfl⟩
    | ok content =>
      dsimp only
      rw [hpass.host]
      split
      · exact ⟨rfl, hpass, rfl⟩
      · obtain ⟨hevents, hend, hending⟩ := ih (i + 1) (hpass.merge f.path content)
        exact ⟨congrArg (turnEvent i total f.path :: ·) hevents, hend, hending⟩

end Turns

/-! ## Sessions -/

namespace Overlay

@[simp] theorem root_commit (o : Overlay) (d : Disk) : (o.commit d).2.1.root = o.root := by
  rw [commit]
  split <;> rfl

end Overlay

namespace Session

/-- All that is decided before the first run. -/
structure Setup where
  updaters : List Updater.Setup
  skipDirs : List String
  onError : OnError
  root : String

def setup (s : Session) : Setup :=
  ⟨s.updaters.map Updater.setup, s.skipDirs, s.onError, s.root⟩

@[simp] theorem setup_reset (s : Session) : s.reset.setup = s.setup := by
  have hupdaters : s.reset.updaters.map Updater.setup = s.updaters.map Updater.setup := by
    rw [reset, List.map_map]
    exact List.map_congr_left fun u _ => u.setup_reset
  rw [setup, hupdaters]
  rfl

theorem root_snapshot {s : Session} {d : Disk} {o : Overlay} (h : s.snapshot d = .ok o) :
    o.root = s.root := by
  obtain ⟨files, -, rfl⟩ := snapshot_ok h
  exact Overlay.root_ofFiles s.root files

theorem setup_after (s : Session) (signals : Signals) {d : Disk} {o : Overlay}
    (h : s.snapshot d = .ok o) (total : Nat) :
    (s.after (turns s.onError signals total 0 o.files (s.firstPass o)).2.1).setup = s.setup := by
  have hupdaters := setup_turns s.onError signals total 0 o.files (s.firstPass o)
  have hoverlay := overlay_turns s.onError signals 0 o.files (s.firstPass o) total
  have hroot : (turns s.onError signals total 0 o.files (s.firstPass o)).2.1.overlay.root =
      s.root := by
    rw [hoverlay, Overlay.root_editAll]
    exact root_snapshot h
  rw [← s.setup_reset, setup, setup]
  congr 1

/-- A run leaves the setup as it is. -/
theorem setup_update (s : Session) (d : Disk) (signals : Signals) :
    (s.update d signals).session.setup = s.setup := by
  obtain ⟨-, hupdate⟩ | ⟨-, f, events, -, -, hupdate⟩ |
    ⟨-, o, done, p, ending, ho, hturns, hupdate⟩ := s.update_cases d signals
  · rw [hupdate]
    exact s.setup_reset
  · rw [hupdate]
    exact s.reset.setup_reset.trans s.setup_reset
  · have hafter := s.setup_after signals ho o.files.length
    rw [hturns] at hafter
    rw [hupdate]
    cases ending with
    | failed f => exact (setup_reset _).trans hafter
    | canceled => exact hafter
    | finished => exact hafter

/-- What can be asked of a session, on whatever the disk is like by then. -/
inductive Call where
  | update (d : Disk) (signals : Signals)
  | cancel
  | commit (d : Disk)

/-- The session after a call. -/
def call (s : Session) : Call → Session
  | .update d signals => (s.update d signals).session
  | .cancel => s.cancel
  | .commit d => (s.commit d).2.1

def callAll (s : Session) (calls : List Call) : Session :=
  calls.foldl call s

theorem setup_call (s : Session) (c : Call) : (s.call c).setup = s.setup := by
  cases c with
  | update d signals => exact s.setup_update d signals
  | cancel => rfl
  | commit d => exact congrArg (Setup.mk _ _ _) (s.overlay.root_commit d)

theorem setup_callAll (s : Session) (calls : List Call) : (s.callAll calls).setup = s.setup := by
  induction calls generalizing s with
  | nil => rfl
  | cons c calls ih => exact (ih (s.call c)).trans (s.setup_call c)

/-! ## Runs -/

/-- The runs come to the same end, by the same events, and leave the same behind. -/
structure Run.Alike (a b : Run) : Prop where
  state : a.session.state = b.session.state
  events : a.events = b.events
  notes : a.notes = b.notes
  overlay : a.session.overlay = b.session.overlay
  skipped : a.session.skipped = b.session.skipped

section Congruence

variable {s t : Session}

theorem clear_congr (h : s.setup = t.setup) : s.overlay.clear = t.overlay.clear :=
  congrArg (fun c : Setup => ({ root := c.root } : Overlay)) h

theorem fail_congr (h : s.setup = t.setup) (events : List Event) (notes : List Json)
    (f : Failure) : (s.fail events notes f).Alike (t.fail events notes f) :=
  ⟨rfl, rfl, rfl, clear_congr h, rfl⟩

theorem transformAll_congr (h : s.setup = t.setup) (hoverlay : s.overlay = t.overlay)
    (hcanceled : s.canceled = t.canceled) (signals : Signals) (events : List Event) :
    (s.transformAll signals events).Alike (t.transformAll signals events) := by
  have hupdaters : s.updaters.map Updater.setup = t.updaters.map Updater.setup :=
    congrArg Setup.updaters h
  have hskip : s.skipDirs = t.skipDirs := congrArg Setup.skipDirs h
  have honError : s.onError = t.onError := congrArg Setup.onError h
  unfold transformAll
  dsimp only
  rw [hoverlay, hcanceled, honError]
  obtain ⟨hevents, hpass, hending⟩ :=
    turns_congr t.onError signals t.overlay.files.length 0 t.overlay.files
      (p := { updaters := s.updaters, host := { overlay := t.overlay, canceled := t.canceled } })
      (q := { updaters := t.updaters, host := { overlay := t.overlay, canceled := t.canceled } })
      ⟨hupdaters, rfl, rfl⟩
  rcases hs : turns t.onError signals t.overlay.files.length 0 t.overlay.files
    { updaters := s.updaters, host := { overlay := t.overlay, canceled := t.canceled } } with
    ⟨done, p, ending⟩
  rcases ht : turns t.onError signals t.overlay.files.length 0 t.overlay.files
    { updaters := t.updaters, host := { overlay := t.overlay, canceled := t.canceled } } with
    ⟨done', q, ending'⟩
  rw [hs, ht] at hevents hpass hending
  obtain rfl : done = done' := hevents
  obtain rfl : ending = ending' := hending
  have hleft : p.overlay = q.overlay := congrArg Host.overlay hpass.host
  have hnotes : p.host.notes = q.host.notes := congrArg Host.notes hpass.host
  cases ending with
  | failed f =>
    dsimp only
    rw [hnotes]
    refine fail_congr ?_ _ _ f
    simp only [setup, root, hpass.updaters, hleft, hskip]
  | canceled => exact ⟨rfl, by simp only [hleft], hnotes, hleft, hpass.skipped⟩
  | finished => exact ⟨rfl, by simp only [hleft], hnotes, hleft, hpass.skipped⟩

/-- A run is the same for all sessions with the same setup. -/
theorem update_congr (h : s.setup = t.setup) (d : Disk) (signals : Signals) :
    (s.update d signals).Alike (t.update d signals) := by
  have hreset : s.reset.setup = t.reset.setup := by rw [setup_reset, setup_reset, h]
  have hroot : s.reset.root = t.reset.root := congrArg Setup.root hreset
  have hskip : s.reset.skipDirs = t.reset.skipDirs := congrArg Setup.skipDirs hreset
  have hoverlay : s.reset.overlay = t.reset.overlay := clear_congr h
  unfold update
  dsimp only
  rw [hroot, hskip, hoverlay]
  split
  · split
    · exact fail_congr hreset _ _ _
    · split
      · exact fail_congr hreset _ _ _
      next o _ =>
        have hsetup : setup { s.reset with skipDirs := t.reset.skipDirs, overlay := o } =
            setup { t.reset with overlay := o } :=
          congrArg (fun c : Setup => { c with skipDirs := t.skipDirs, root := o.root }) hreset
        exact transformAll_congr hsetup rfl rfl signals _
  · exact ⟨rfl, rfl, rfl, rfl, rfl⟩

end Congruence

/-- The session as it was before its first run. -/
def fresh (s : Session) : Session :=
  { updaters := s.updaters.map Updater.fresh
    skipDirs := s.skipDirs
    onError := s.onError
    overlay := { root := s.root } }

theorem setup_fresh (s : Session) : s.fresh.setup = s.setup := by
  have hupdaters : s.fresh.updaters.map Updater.setup = s.updaters.map Updater.setup := by
    rw [fresh, List.map_map]
    exact List.map_congr_left fun u _ => u.setup_fresh
  rw [setup, hupdaters]
  rfl

/-- After any history of runs, requests to cancel and commits, over whatever disks, a run ends in
the same state, publishes the same events and leaves the same snapshot, the same changes and the
same files skipped as the run of a session that has just been set up in the same way. -/
theorem update_forgets_history (s : Session) (calls : List Call) (d : Disk) (signals : Signals) :
    let again := (s.callAll calls).update d signals
    let first := s.fresh.update d signals
    again.session.state = first.session.state ∧
      again.events = first.events ∧
      again.session.overlay.files = first.session.overlay.files ∧
      again.session.overlay.records = first.session.overlay.records ∧
      again.session.changes = first.session.changes ∧
      again.session.skipped = first.session.skipped ∧
      again.notes = first.notes := by
  have hsetup : (s.callAll calls).setup = s.fresh.setup :=
    (s.setup_callAll calls).trans s.setup_fresh.symm
  have hrun := update_congr hsetup d signals
  exact ⟨hrun.state, hrun.events, congrArg Overlay.files hrun.overlay,
    congrArg Overlay.records hrun.overlay, congrArg Overlay.changes hrun.overlay, hrun.skipped,
    hrun.notes⟩

end Session

end Codemod
