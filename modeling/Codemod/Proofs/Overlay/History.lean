import Codemod.Proofs.Overlay.Valid

/-!
# Histories of an overlay

An overlay has a history: files are inserted, which makes the snapshot, and then paths are given
contents and deleted in any order. Whatever the order, the snapshot stays, and every record
remembers what the snapshot has at its path.

## Main definitions

* `Edit` — one change to the project, in any spelling of the path.
* `Overlay.ofFiles`, `Overlay.editAll` — the two parts of a history.
* `Overlay.Coherent` — records remember the snapshot.

## Main results

* `Overlay.coherent_history` — records remember the snapshot at the end of every history.
-/

namespace Codemod

inductive Edit where
  | add (path content : String)
  | delete (path : String)

namespace Edit

def path : Edit → String
  | add p _ => p
  | delete p => p

/-- The project form of the path. -/
def target (e : Edit) : String :=
  Path.normalize e.path

/-- What the path is given; to delete it is to give it nothing. -/
def content : Edit → String
  | add _ c => c
  | delete _ => ""

end Edit

namespace Overlay

def edit (o : Overlay) : Edit → Overlay
  | .add path content => o.add path content
  | .delete path => o.delete path

def editAll (o : Overlay) (edits : List Edit) : Overlay :=
  edits.foldl edit o

/-- The overlay whose snapshot is made by inserting files one after the other. -/
def ofFiles (root : String) (files : List ProjectFile) : Overlay :=
  files.foldl insert { root }

theorem edit_eq_add (o : Overlay) (e : Edit) : o.edit e = o.add e.path e.content := by
  cases e <;> rfl

@[simp] theorem editAll_append (o : Overlay) (es : List Edit) (e : Edit) :
    o.editAll (es ++ [e]) = (o.editAll es).edit e := by
  simp [editAll]

@[simp] theorem ofFiles_append (root : String) (fs : List ProjectFile) (f : ProjectFile) :
    ofFiles root (fs ++ [f]) = (ofFiles root fs).insert f := by
  simp [ofFiles]

/-! ## What edits leave alone -/

@[simp] theorem files_edit (o : Overlay) (e : Edit) : (o.edit e).files = o.files := by
  rw [edit_eq_add, files_add]

@[simp] theorem files_editAll (o : Overlay) (es : List Edit) : (o.editAll es).files = o.files := by
  induction es using List.reverseRecOn with
  | nil => rfl
  | append_singleton es e ih => rw [editAll_append, files_edit, ih]

@[simp] theorem root_edit (o : Overlay) (e : Edit) : (o.edit e).root = o.root := by
  rw [edit_eq_add, root_add]

@[simp] theorem root_editAll (o : Overlay) (es : List Edit) : (o.editAll es).root = o.root := by
  induction es using List.reverseRecOn with
  | nil => rfl
  | append_singleton es e ih => rw [editAll_append, root_edit, ih]

@[simp] theorem original_edit (o : Overlay) (e : Edit) (path : String) :
    (o.edit e).original path = o.original path := by
  rw [edit_eq_add, original_add]

theorem record?_edit_of_ne (o : Overlay) {e : Edit} {path : String} (h : e.target ≠ path) :
    (o.edit e).record? path = o.record? path := by
  rw [edit_eq_add, record?_add_of_ne o _ _ h]

/-- A content that is not the one from before the run is recorded. -/
theorem exists_record?_edit (o : Overlay) {e : Edit} (h : e.content ≠ o.original e.target) :
    ∃ c, (o.edit e).record? e.target = some c ∧ c.content = e.content := by
  rw [edit_eq_add, Edit.target, record?_add_self]
  cases o.record? (Path.normalize e.path) with
  | some c => exact ⟨_, rfl, rfl⟩
  | none => exact ⟨_, if_neg (Ne.symm h), rfl⟩

@[simp] theorem file?_editAll (o : Overlay) (es : List Edit) (path : String) :
    (o.editAll es).file? path = o.file? path := by
  simp [file?]

@[simp] theorem original_editAll (o : Overlay) (es : List Edit) (path : String) :
    (o.editAll es).original path = o.original path := by
  simp [original]

@[simp] theorem root_ofFiles (root : String) (fs : List ProjectFile) :
    (ofFiles root fs).root = root := by
  induction fs using List.reverseRecOn with
  | nil => rfl
  | append_singleton fs f ih => rwa [ofFiles_append]

@[simp] theorem records_ofFiles (root : String) (fs : List ProjectFile) :
    (ofFiles root fs).records = [] := by
  induction fs using List.reverseRecOn with
  | nil => rfl
  | append_singleton fs f ih => rwa [ofFiles_append]

/-! ## Invariants of a history -/

theorem Valid.edit {o : Overlay} (h : o.Valid) (e : Edit) : (o.edit e).Valid := by
  rw [edit_eq_add]
  exact h.add e.path e.content

theorem valid_ofFiles (root : String) (fs : List ProjectFile) : (ofFiles root fs).Valid := by
  induction fs using List.reverseRecOn with
  | nil => exact valid_empty root
  | append_singleton fs f ih => exact ofFiles_append root fs f ▸ ih.insert f

theorem valid_history (root : String) (fs : List ProjectFile) (es : List Edit) :
    ((ofFiles root fs).editAll es).Valid := by
  induction es using List.reverseRecOn with
  | nil => exact valid_ofFiles root fs
  | append_singleton es e ih => exact editAll_append _ es e ▸ ih.edit e

/-- Records remember what the snapshot has at their paths. -/
def Coherent (o : Overlay) : Prop :=
  ∀ path c, o.record? path = some c → c.before = o.original path

theorem coherent_of_no_records (o : Overlay) : Coherent { o with records := [] } := by
  intro path c hc
  simp [record?] at hc

theorem Coherent.edit {o : Overlay} (h : o.Coherent) (e : Edit) : (o.edit e).Coherent := by
  intro path c hc
  rw [edit_eq_add] at hc ⊢
  rw [original_add]
  by_cases hp : Path.normalize e.path = path
  · subst hp
    rw [record?_add_self] at hc
    split at hc
    next b hb =>
      obtain rfl := Option.some.inj hc
      exact h _ b hb
    next =>
      split at hc
      · simp at hc
      · obtain rfl := Option.some.inj hc
        rfl
  · rw [record?_add_of_ne o _ _ hp] at hc
    exact h path c hc

theorem coherent_history (root : String) (fs : List ProjectFile) (es : List Edit) :
    ((ofFiles root fs).editAll es).Coherent := by
  induction es using List.reverseRecOn with
  | nil =>
    intro path c hc
    simp [editAll, record?] at hc
  | append_singleton es e ih => exact editAll_append _ es e ▸ ih.edit e

end Overlay

end Codemod
