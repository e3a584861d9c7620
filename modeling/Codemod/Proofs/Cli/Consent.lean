import Codemod.Cli
import Codemod.Proofs.Session.Outcomes

/-!
# Consent

An update brings nothing to the disk unless it has been told to, and it has to be told twice: that
changes are to be written at all, and that these changes are to be written.

## Main statements

* `Cli.confirms_iff` — which inputs say yes.
* `Cli.disk_update_cases` — what can become of the disk.
* `Cli.writes_only_with_consent` — without consent the disk stays as it is, and with it the disk
  becomes what a commit of the run makes of it.
-/

namespace Codemod

/-! ## Answers -/

namespace Text

theorem toLower_of_isBlank {c : Char} (h : isBlank c = true) : c.toLower = c := by
  have hrange : ¬ (c.val ≥ 'A'.val ∧ c.val ≤ 'Z'.val) := by
    simp only [isBlank, Bool.or_eq_true, Bool.and_eq_true, decide_eq_true_eq, beq_iff_eq,
      Char.toNat] at h
    simp only [ge_iff_le, UInt32.le_iff_toNat_le, Char.reduceVal, UInt32.reduceToNat]
    omega
  exact dif_neg hrange

/-- What is trimmed off is blank. -/
theorem exists_trim (s : List Char) :
    ∃ before after, s = before ++ trim s ++ after ∧
      (∀ c ∈ before, isBlank c = true) ∧ ∀ c ∈ after, isBlank c = true := by
  refine ⟨s.takeWhile isBlank, ((trimStart s).reverse.takeWhile isBlank).reverse, ?_,
    fun c hc => List.mem_takeWhile_imp hc,
    fun c hc => List.mem_takeWhile_imp (List.mem_reverse.mp hc)⟩
  have hend : trim s ++ ((trimStart s).reverse.takeWhile isBlank).reverse = trimStart s := by
    rw [trim, trimEnd, ← List.reverse_append, List.takeWhile_append_dropWhile, List.reverse_reverse]
  rw [List.append_assoc, hend]
  exact List.takeWhile_append_dropWhile.symm

theorem trim_append {before t after : List Char} (hbefore : ∀ c ∈ before, isBlank c = true)
    (ht : ∀ c ∈ t, isBlank c = false) (hafter : ∀ c ∈ after, isBlank c = true) :
    trim (before ++ t ++ after) = t := by
  have hkeep : ∀ u : List Char, (∀ c ∈ u, isBlank c = false) → u.dropWhile isBlank = u := by
    intro u hu
    cases u with
    | nil => rfl
    | cons c u => simp [hu c]
  cases t with
  | nil =>
    have hall : ∀ c ∈ before ++ [] ++ after, isBlank c = true := by grind
    rw [trim, trimStart, List.dropWhile_eq_nil_iff.mpr hall]
    rfl
  | cons c t =>
    have hstart : trimStart (before ++ (c :: t) ++ after) = c :: t ++ after := by
      rw [trimStart, List.append_assoc, List.dropWhile_append_of_pos hbefore]
      simp [ht c]
    rw [trim, hstart, trimEnd, List.reverse_append,
      List.dropWhile_append_of_pos (by simpa using hafter), hkeep _ (by grind),
      List.reverse_reverse]

end Text

/-- A run has ended in one way or another. -/
theorem Session.state_update_ne_idle (s : Session) (d : Disk) (signals : Signals) :
    (s.update d signals).session.state ≠ .idle := by
  obtain ⟨-, hupdate⟩ | ⟨-, f, events, -, -, hupdate⟩ | ⟨-, o, done, p, ending, -, -, hupdate⟩ :=
    s.update_cases d signals
  · simp [hupdate]
  · simp [hupdate, fail]
  · cases ending <;> simp [hupdate, fail]

namespace Cli

open Text (isBlank)

/-- The first line of an input is `y` or `yes`, in small or large letters and with blanks around. -/
def SaysYes (input : String) : Prop :=
  ∃ before answer after : List Char,
    input.toList.takeWhile (· ≠ '\n') = before ++ answer ++ after ∧
    (∀ c ∈ before, isBlank c = true) ∧ (∀ c ∈ after, isBlank c = true) ∧
    (answer.map Char.toLower = ['y'] ∨ answer.map Char.toLower = ['y', 'e', 's'])

theorem confirms_iff (input : String) : confirms input = true ↔ SaysYes input := by
  have htext : ∀ t : List Char, (String.ofList t = "y" ↔ t = ['y']) ∧
      (String.ofList t = "yes" ↔ t = ['y', 'e', 's']) :=
    fun t => ⟨String.ofList_inj, String.ofList_inj⟩
  simp only [confirms, Bool.or_eq_true, decide_eq_true_eq, htext]
  constructor
  · intro h
    obtain ⟨before, after, heq, hbefore, hafter⟩ :=
      Text.exists_trim (input.toList.takeWhile (· ≠ '\n'))
    exact ⟨before, _, after, heq, hbefore, hafter, h⟩
  · rintro ⟨before, answer, after, heq, hbefore, hafter, h⟩
    have hanswer : ∀ c ∈ answer, isBlank c = false := by
      intro c hc
      rw [Bool.eq_false_iff]
      intro hblank
      -- a blank has no other case, so it would be one of the letters
      have hmem : c ∈ answer.map Char.toLower :=
        List.mem_map.mpr ⟨c, hc, Text.toLower_of_isBlank hblank⟩
      obtain rfl | rfl | rfl : c = 'y' ∨ c = 'e' ∨ c = 's' := by grind
      all_goals exact absurd hblank (by decide)
    rwa [heq, Text.trim_append hbefore hanswer hafter]

/-! ## Updates -/

/-- A run has finished with something to write, and writing it has been asked for. -/
structure Consents (o : UpdateOptions) (input : String) (s : Session) : Prop where
  finished : s.state = .finished
  changes_ne_nil : s.changes ≠ []
  write : o.write = true
  agreed : o.yes = true ∨ o.json = false ∧ SaysYes input

section

variable (env : Environment) (o : UpdateOptions) (input : String)

@[simp] theorem Reply.withInput_answer (a : Answer) : (Reply.answer a).withInput input = a := rfl

@[simp] theorem disk_after (out : String) (r : Reply) :
    ((r.after out).withInput input).disk = (r.withInput input).disk := by
  cases r <;> rfl

@[simp] theorem disk_write (json : Bool) (s : Session) :
    (write env json s).disk = (s.commit env.disk).1 := by
  unfold write
  split <;> simp [*, failed]
  split <;> rfl

theorem disk_ask (s : Session) :
    ((ask env s).withInput input).disk =
      if confirms input then (s.commit env.disk).1 else env.disk := by
  simp only [ask, Reply.withInput, Answer.after]
  split
  · exact disk_write env false s
  · rfl

theorem disk_conclude (s : Session) :
    ((conclude env o s).withInput input).disk =
      if s.changes ≠ [] ∧ o.write ∧ (o.yes ∨ o.json = false ∧ confirms input) then
        (s.commit env.disk).1
      else env.disk := by
  simp only [conclude, disk_after, List.length_eq_zero_iff]
  by_cases hnil : s.changes = []
  · simp [hnil, done]
  · rcases o with ⟨config, skip, _ | _, _ | _, _ | _⟩ <;> simp [hnil, done, failed, disk_ask]

theorem consents_iff {s : Session} (h : s.state = .finished) :
    Consents o input s ↔
      s.changes ≠ [] ∧ o.write ∧ (o.yes ∨ o.json = false ∧ confirms input) := by
  rw [confirms_iff]
  exact ⟨fun hc => ⟨hc.changes_ne_nil, hc.write, hc.agreed⟩,
    fun ⟨hne, hwrite, hagreed⟩ => ⟨h, hne, hwrite, hagreed⟩⟩

/-- The run of an update. -/
def IsRun (root : String) (r : Session.Run) : Prop :=
  ∃ s, session env root o.config o.skipDirs = .ok s ∧ s.update env.disk env.signals = r

theorem IsRun.unique {env : Environment} {o : UpdateOptions} {root : String} {r r' : Session.Run}
    (h : IsRun env o root r) (h' : IsRun env o root r') : r = r' := by
  obtain ⟨s, hs, rfl⟩ := h
  obtain ⟨s', hs', rfl⟩ := h'
  obtain rfl : s = s' := Except.ok.inj (hs.symm.trans hs')
  rfl

/-- The disk is what the commit of a run makes of it if there is consent to that run, and what it
was otherwise. -/
theorem disk_update_cases (root : String) :
    (∃ r, IsRun env o root r ∧ Consents o input r.session ∧
      ((update env root o).withInput input).disk = (r.session.commit env.disk).1) ∨
    (¬ ∃ r, IsRun env o root r ∧ Consents o input r.session) ∧
      ((update env root o).withInput input).disk = env.disk := by
  unfold update
  split
  next reason hsession =>
    refine .inr ⟨?_, rfl⟩
    rintro ⟨r, ⟨s, hs, -⟩, -⟩
    simp [hsession] at hs
  next s hs =>
    have hrun : ∀ r, IsRun env o root r ↔ r = s.update env.disk env.signals := by
      intro r
      simp [IsRun, hs, eq_comm]
    simp only [hrun, exists_eq_left, disk_after]
    have hidle := s.state_update_ne_idle env.disk env.signals
    generalize s.update env.disk env.signals = r at hidle ⊢
    cases hstate : r.session.state with
    | idle => exact absurd hstate hidle
    | finished =>
      simp only [disk_conclude, consents_iff o input hstate]
      split
      next h => exact .inl ⟨h, rfl⟩
      next h => exact .inr ⟨h, rfl⟩
    | canceled =>
      refine .inr ⟨fun ⟨hfinished, _, _, _⟩ => ?_, rfl⟩
      simp [hstate] at hfinished
    | errored =>
      refine .inr ⟨fun ⟨hfinished, _, _, _⟩ => ?_, rfl⟩
      simp [hstate] at hfinished

/-- An update leaves the disk as it was unless its run has finished with changes, writing was asked
for, and the changes were agreed to, beforehand or when asked. If all this holds and the changes can
be committed, the disk is the one that the commit of the run makes. -/
theorem writes_only_with_consent (root : String) :
    ((¬ ∃ r, IsRun env o root r ∧ Consents o input r.session) →
      ((update env root o).withInput input).disk = env.disk) ∧
    ∀ r d' s' report, IsRun env o root r → Consents o input r.session →
      r.session.commit env.disk = (d', s', .ok report) →
        ((update env root o).withInput input).disk = d' := by
  obtain ⟨r, hrun, hconsents, hdisk⟩ | ⟨hno, hdisk⟩ := disk_update_cases env o input root
  · refine ⟨fun hno => absurd ⟨r, hrun, hconsents⟩ hno, ?_⟩
    rintro r' d' s' report hrun' - hcommit
    rw [hdisk, hrun.unique hrun', hcommit]
  · refine ⟨fun _ => hdisk, ?_⟩
    intro r d' s' report hrun hconsents
    exact absurd ⟨r, hrun, hconsents⟩ hno

end

end Cli

namespace Sample

/-- A project with one file, and settings beside it that have the file deleted. -/
def settled : Cli.Environment :=
  { disk :=
      { entries := [(["proj"], .folder), (["proj", "a.txt"], .file (Bytes.ofText "x\n")),
          (["rules.yaml"],
            .file (Bytes.ofText "rules:\n  - rule: delete-files\n    pattern: a\n"))] } }

def writing : Cli.UpdateOptions :=
  { config := some "rules.yaml", write := true }

end Sample

/-- The same run is written when the question is answered with yes, and not when it is answered with
anything else. -/
theorem Cli.writes_only_with_consent_asked :
    (∃ r d' s' report, IsRun Sample.settled Sample.writing "proj" r ∧
      Consents Sample.writing " Yes\n" r.session ∧
      r.session.commit Sample.settled.disk = (d', s', .ok report) ∧
      ((update Sample.settled "proj" Sample.writing).withInput " Yes\n").disk = d' ∧
      d'.fileAt? ["proj", "a.txt"] = none) ∧
    ((update Sample.settled "proj" Sample.writing).withInput "yes!\n").disk =
      Sample.settled.disk := by
  have hyes : SaysYes " Yes\n" := (confirms_iff _).mp (by decide +kernel)
  have hno : ¬ SaysYes "yes!\n" := fun h => absurd ((confirms_iff _).mpr h) (by decide +kernel)
  constructor
  · have hevaluated :
        ((session Sample.settled "proj" (some "rules.yaml") []).toOption.any fun s =>
          let r := s.update Sample.settled.disk .none
          let (d', _, result) := r.session.commit Sample.settled.disk
          r.session.state = .finished && !r.session.changes.isEmpty && result.isOk &&
            d'.fileAt? ["proj", "a.txt"] = none) = true := by
      decide +kernel
    cases hs : session Sample.settled "proj" (some "rules.yaml") [] with
    | error e => simp [hs, Except.toOption] at hevaluated
    | ok s =>
      rcases hcommit : (s.update Sample.settled.disk .none).session.commit Sample.settled.disk with
        ⟨d', s', f | report⟩
      · simp [hs, hcommit, Except.toOption, Except.isOk, Except.toBool] at hevaluated
      · simp only [hs, hcommit, Except.toOption, Option.any_some, Bool.and_eq_true,
          decide_eq_true_eq, Bool.not_eq_true', List.isEmpty_eq_false_iff] at hevaluated
        obtain ⟨⟨⟨hstate, hchanges⟩, -⟩, hgone⟩ := hevaluated
        have hrun : IsRun Sample.settled Sample.writing "proj"
            (s.update Sample.settled.disk .none) :=
          ⟨s, hs, rfl⟩
        have hconsents : Consents Sample.writing " Yes\n"
            (s.update Sample.settled.disk .none).session :=
          ⟨hstate, hchanges, rfl, .inr ⟨rfl, hyes⟩⟩
        exact ⟨_, d', s', report, hrun, hconsents, hcommit,
          (writes_only_with_consent Sample.settled Sample.writing " Yes\n" "proj").2
            _ _ _ _ hrun hconsents hcommit, hgone⟩
  · refine (writes_only_with_consent Sample.settled Sample.writing "yes!\n" "proj").1 ?_
    rintro ⟨r, -, h⟩
    obtain hyes | ⟨-, hsays⟩ := h.agreed
    · cases hyes
    · exact hno hsays

end Codemod
