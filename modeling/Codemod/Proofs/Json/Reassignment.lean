import Codemod.Proofs.Json.Assignment
import Codemod.Proofs.Json.Limits

/-!
# Assigning again

After an assignment its tokens lead the same way down, and to the value that was put there, so that
the same assignment changes nothing any more. A position after the last item has become the position
of an item by then. Only the token for the end of an array names another place each time.

## Main definitions

* `Json.appends` — the last of the tokens is the one for the end of an array.

## Main results

* `Json.Names.again` — a token names the same place after something was put there.
* `Json.assign_assign` — an assignment that is made again.
* `Json.all_assign` — the values of a document after an assignment.
-/

namespace Codemod.Json

/-! ## One step -/

theorem insert_insert (k : String) (v w : Json) (members : List (String × Json)) :
    insert k w (insert k v members) = insert k w members := by
  fun_induction insert k v members <;> simp_all [insert]

namespace Names

variable {t : String} {d : Json} {s : Step} {put : Json → Json}

/-- A token names the same place after something was put there, unless it names a place at the end
of an array whatever items there are. -/
theorem again (h : Names t d s put) (ht : t = "-" → ∀ items, d ≠ arr items) (v : Json) :
    Names t (put v) s put := by
  cases h with
  | member members =>
    have hagain := member (t := t) (insert t v members)
    simpa only [insert_insert] using hagain
  | @item items i hindex hi =>
    have hagain : Names t (arr (items.set i v)) _ _ := .item hindex (by simpa using hi)
    simpa only [List.set_set] using hagain
  | @append items hindex =>
    have hlast : Pointer.index t = .ok items.length :=
      hindex.resolve_left fun hdash => ht hdash items rfl
    have hagain : Names t (arr (items ++ [v])) _ _ := .item hlast (by simp)
    simpa using hagain

/-- Where a place is taken, an assignment goes on with what is there. -/
theorem assign_cons (h : Names t d s put) {v value next : Json} (hv : d.down? s = some v)
    {ts : List String} (hnext : assign value ts v = (.ok (), next)) :
    assign value (t :: ts) d = (.ok (), put next) := by
  cases h with
  | member members =>
    cases ts with
    | nil =>
      cases hnext
      rfl
    | cons u ts =>
      rw [down?] at hv
      simp [assign, child, hv, hnext]
  | @item items i hindex hi =>
    have hposition : position t = .ok i := by rw [position, hindex]
    cases ts with
    | nil =>
      have hdash : t ≠ "-" := by
        rintro rfl
        cases hindex
      cases hnext
      simp [assign, setLast, hdash, hposition, hi]
    | cons u ts =>
      rw [down?] at hv
      simp [assign, child, hposition, hv, hnext]
  | append => simp [down?] at hv

end Names

/-! ## All steps -/

/-- The last of the tokens is the one for the end of an array, and leads to an array on the way that
an assignment takes. -/
def appends : List String → Json → Bool
  | [t], arr _ => t = "-"
  | t :: u :: ts, v =>
    match child t v with
    | .ok c => appends (u :: ts) c.value
    | .error _ => false
  | _, _ => false

/-- There are no arrays below a new object. -/
theorem appends_obj_nil (ts : List String) : appends ts (obj []) = false := by
  induction ts with
  | nil => rfl
  | cons t ts ih =>
    cases ts with
    | nil => rfl
    | cons u ts => exact ih

theorem Names.appends_of_cons {t : String} {ts : List String} {d : Json} {s : Step}
    {put : Json → Json} (h : Names t d s put) (hlast : appends (t :: ts) d = false) :
    appends ts ((d.down? s).getD (obj [])) = false := by
  cases ts with
  | nil => rfl
  | cons u ts =>
    rw [appends] at hlast
    cases h with
    | member members => exact hlast
    | @item items i hindex hi =>
      have hposition : position t = .ok i := by rw [position, hindex]
      simpa [child, hposition, down?, hi] using hlast
    | append => simp [down?, appends_obj_nil]

/-- The token for the end of an array is of use only as the last one. -/
theorem appends_of_assign {value : Json} {items : List Json} {r : Json} {ts : List String}
    (h : assign value ("-" :: ts) (arr items) = (.ok (), r)) :
    appends ("-" :: ts) (arr items) = true := by
  cases ts with
  | nil => rfl
  | cons u ts => cases h

/-- An assignment that is made again changes nothing, unless it appends to an array. -/
theorem assign_assign {value d r : Json} {ts : List String}
    (h : assign value ts d = (.ok (), r)) (hlast : appends ts d = false) :
    assign value ts r = (.ok (), r) := by
  induction ts generalizing d r with
  | nil =>
    cases h
    rfl
  | cons t ts ih =>
    obtain ⟨s, put, next, hnames, hnext, rfl⟩ := assign_cons_ok h
    have hdash : t = "-" → ∀ items, d ≠ arr items := by
      rintro rfl items rfl
      simp [appends_of_assign h] at hlast
    exact (hnames.again hdash next).assign_cons (hnames.down?_put next)
      (ih hnext (hnames.appends_of_cons hlast))

/-! ## The values of a document -/

theorem mem_of_get? {k : String} {v : Json} {members : List (String × Json)}
    (h : get? k members = some v) : (k, v) ∈ members := by
  fun_induction get? k members <;> grind

theorem all_down? {p : Json → Prop} {d v : Json} {s : Step} (hd : d.All p)
    (hv : d.down? s = some v) : v.All p := by
  unfold down? at hv
  split at hv
  · exact allMembers_iff.mp hd.2 _ (mem_of_get? hv)
  · exact allItems_iff.mp hd.2 _ (List.mem_of_getElem? hv)
  · cases hv

theorem Names.all_put {t : String} {d v : Json} {s : Step} {put : Json → Json}
    (h : Names t d s put) (hd : d.All IsOrdinary) (hv : v.All IsOrdinary) :
    (put v).All IsOrdinary := by
  cases h with
  | member members => exact all_obj_insert hd hv (nodup_insert hd.1)
  | item hindex hi =>
    refine ⟨trivial, allItems_iff.mpr fun w hw => ?_⟩
    obtain hw | rfl := List.mem_or_eq_of_mem_set hw
    · exact allItems_iff.mp hd.2 w hw
    · exact hv
  | append hindex => exact all_arr_append hd hv trivial

/-- What an assignment of an ordinary value makes of an ordinary document is ordinary. -/
theorem all_assign {value d r : Json} {ts : List String} (hvalue : value.All IsOrdinary)
    (hd : d.All IsOrdinary) (h : assign value ts d = (.ok (), r)) : r.All IsOrdinary := by
  induction ts generalizing d r with
  | nil =>
    cases h
    exact hvalue
  | cons t ts ih =>
    obtain ⟨s, put, next, hnames, hnext, rfl⟩ := assign_cons_ok h
    refine hnames.all_put hd (ih ?_ hnext)
    cases hdown : d.down? s with
    | none => exact ⟨List.nodup_nil, trivial⟩
    | some v => exact all_down? hd hdown

end Codemod.Json
