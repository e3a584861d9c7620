import Codemod.Json.Pointer
import Codemod.Proofs.Json.Members
import Mathlib.Data.List.Forall2

/-!
# What an assignment does to a document

A pointer is followed down a document while the document is changed on the way: every token names a
place in the value at hand, a missing member is made before the next token is looked at, and the
value is put at the place that the last token names. After a member has been made there are only new
objects to go down to, in which every token names a place. So an assignment that fails has made
nothing, and one that succeeds changes one location and what it has to make on the way there.

## Main definitions

* `Json.Step`, `Json.at?` — locations, and the value at a location.
* `Json.Names` — the place that a token names, and how a value is put there.
* `Json.Widens` — how a container changes when something is put into it or below it.
* `Json.Placed` — a value is put at a location, and all else stays.

## Main results

* `Json.assign_cons_ok` — one step of an assignment.
* `Json.assign_error` — an assignment that fails.
* `Json.Placed.cons`, `Json.exists_placed` — one step, and all steps, of one that succeeds.
* `Json.assignment_is_atomic_and_local` — what becomes of a document.
-/

namespace Codemod.Json

/-! ## Locations -/

/-- A step from a value down to one of its children. -/
inductive Step where
  | member (name : String)
  | item (position : Nat)
  deriving DecidableEq

/-- The child that a step leads to. -/
def down? : Json → Step → Option Json
  | obj members, .member name => get? name members
  | arr items, .item i => items[i]?
  | _, _ => none

/-- The value at a location, which is told by the steps down to it. -/
def at? : Json → List Step → Option Json
  | v, [] => some v
  | v, s :: rest => (v.down? s).bind (at? · rest)

@[simp] theorem at?_nil (v : Json) : v.at? [] = some v := rfl

@[simp] theorem at?_cons (v : Json) (s : Step) (q : List Step) :
    v.at? (s :: q) = (v.down? s).bind (·.at? q) := rfl

/-- Below a new object there is as little as below nothing. -/
theorem at?_getD_obj_nil (o : Option Json) {q : List Step} (hq : q ≠ []) :
    (o.getD (obj [])).at? q = o.bind (·.at? q) := by
  cases o with
  | some v => rfl
  | none =>
    obtain ⟨s, q, rfl⟩ := List.exists_cons_of_ne_nil hq
    cases s <;> rfl

/-! ## The places that tokens name -/

/-- The token names the place `s` in a value; `put` puts something there. A position of an array
names the place of an item, or the one after the last item, for which there is a token of its
own. -/
inductive Names (t : String) : Json → Step → (Json → Json) → Prop
  | member (members : List (String × Json)) :
      Names t (obj members) (.member t) (obj <| insert t · members)
  | item {items : List Json} {i : Nat} (ht : Pointer.index t = .ok i) (hi : i < items.length) :
      Names t (arr items) (.item i) (arr <| items.set i ·)
  | append {items : List Json} (ht : t = "-" ∨ Pointer.index t = .ok items.length) :
      Names t (arr items) (.item items.length) (arr <| items ++ [·])

namespace Names

variable {t : String} {d : Json} {s : Step} {put : Json → Json}

theorem down?_put (h : Names t d s put) (v : Json) : (put v).down? s = some v := by
  cases h <;> simp_all [down?]

theorem down?_put_of_ne (h : Names t d s put) {s' : Step} (hs : s' ≠ s) (v : Json) :
    (put v).down? s' = d.down? s' := by
  cases h <;> cases s' <;> grind [down?, get?_insert_of_ne]

/-- To put at a place what is there already changes nothing. -/
theorem put_down? (h : Names t d s put) {v : Json} (hv : d.down? s = some v) : put v = d := by
  cases h with
  | member members => exact congrArg obj (insert_of_get? hv)
  | item ht hi =>
    obtain ⟨-, rfl⟩ := List.getElem?_eq_some_iff.mp hv
    exact congrArg arr (List.set_getElem_self hi)
  | append => simp [down?] at hv

end Names

/-! ## One step -/

theorem position_ok {t : String} {i : Nat} (h : position t = .ok i) : Pointer.index t = .ok i := by
  unfold position at h
  split at h <;> simp_all

/-- Where there is nothing at the place yet, an object without members is. -/
theorem names_of_child {t : String} {d : Json} {c : Child} (h : child t d = .ok c) :
    ∃ s, Names t d s c.put ∧ c.value = (d.down? s).getD (obj []) := by
  unfold child at h
  split at h
  next members =>
    cases h
    exact ⟨_, .member members, rfl⟩
  next items =>
    split at h
    · cases h
    next i hi =>
      split at h
      · cases h
      next v hv =>
        cases h
        obtain ⟨hlt, -⟩ := List.getElem?_eq_some_iff.mp hv
        exact ⟨_, .item (position_ok hi) hlt, by simp [down?, hv]⟩
  · cases h

theorem names_of_setLast {t : String} {value d next : Json} (h : setLast t value d = .ok next) :
    ∃ s put, Names t d s put ∧ next = put value := by
  unfold setLast at h
  split at h
  next members =>
    cases h
    exact ⟨_, _, .member members, rfl⟩
  next items =>
    split at h
    next ht =>
      cases h
      exact ⟨_, _, .append (.inl ht), rfl⟩
    next =>
      split at h
      · cases h
      next i hi =>
        split at h
        next hlt =>
          cases h
          exact ⟨_, _, .item (position_ok hi) hlt, rfl⟩
        next =>
          split at h
          next heq =>
            cases h
            exact ⟨_, _, .append (.inr (heq ▸ position_ok hi)), rfl⟩
          next => cases h
  · cases h

/-- One step of an assignment: the first token names a place, and the assignment goes on with what
is there. -/
theorem assign_cons_ok {value d r : Json} {t : String} {ts : List String}
    (h : assign value (t :: ts) d = (.ok (), r)) :
    ∃ s put next, Names t d s put ∧
      assign value ts ((d.down? s).getD (obj [])) = (.ok (), next) ∧ r = put next := by
  cases ts with
  | nil =>
    rw [assign] at h
    split at h
    next next hlast =>
      cases h
      obtain ⟨s, put, hnames, rfl⟩ := names_of_setLast hlast
      exact ⟨s, put, value, hnames, rfl, rfl⟩
    next => cases h
  | cons u ts =>
    rw [assign] at h
    split at h
    · cases h
    next c hc =>
      obtain ⟨s, hnames, hvalue⟩ := names_of_child hc
      rcases hrest : assign value (u :: ts) c.value with ⟨outcome, next⟩
      simp only [hrest] at h
      cases h
      exact ⟨s, c.put, next, hnames, hvalue ▸ hrest, rfl⟩

/-! ## Assignments that fail -/

/-- In an object without members every token names a place. -/
theorem exists_assign_obj_nil (value : Json) {ts : List String} (h : ts ≠ []) :
    ∃ r, assign value ts (obj []) = (.ok (), r) := by
  induction ts with
  | nil => exact absurd rfl h
  | cons t ts ih =>
    cases ts with
    | nil => exact ⟨_, rfl⟩
    | cons u ts =>
      obtain ⟨r, hr⟩ := ih (by simp)
      refine ⟨obj (insert t r []), ?_⟩
      rw [assign]
      simp [child, get?, hr]

/-- An assignment that fails leaves the document as it was. -/
theorem assign_error {value d r : Json} {ts : List String} {e : SetError}
    (h : assign value ts d = (.error e, r)) : r = d := by
  fun_induction assign value ts d generalizing r with
  | case1 => cases h
  | case2 => cases h
  | case3 => grind
  | case4 => grind
  | case5 t u ts d c hc outcome next hrest ih =>
    obtain ⟨hfailed, rfl⟩ := Prod.mk.inj h
    obtain ⟨s, hnames, hvalue⟩ := names_of_child hc
    obtain rfl : next = c.value := ih (by rw [hrest, hfailed])
    cases hdown : d.down? s with
    | some v => exact hnames.put_down? (by simp [hvalue, hdown])
    | none =>
      -- the walk has made a member here, and from there on it cannot have failed
      obtain ⟨r, hr⟩ := exists_assign_obj_nil value (List.cons_ne_nil u ts)
      rw [hvalue, hdown] at hrest
      simp [hr, hfailed] at hrest

/-! ## Assignments that succeed -/

/-- How a container, or a place where there is nothing yet, changes when something is put at its
place `s` or below it. -/
inductive Widens : Option Json → Step → Json → Prop
  | made (k : String) (v : Json) : Widens none (.member k) (obj [(k, v)])
  | kept (before after : List (String × Json)) (k : String) (old v : Json)
      (hk : k ∉ before.map Prod.fst) :
      Widens (some (obj (before ++ (k, old) :: after))) (.member k) (obj (before ++ (k, v) :: after))
  | added (members : List (String × Json)) (k : String) (v : Json)
      (hk : k ∉ members.map Prod.fst) :
      Widens (some (obj members)) (.member k) (obj (members ++ [(k, v)]))
  | replaced (items : List Json) (i : Nat) (v : Json) (hi : i < items.length) :
      Widens (some (arr items)) (.item i) (arr (items.set i v))
  | appended (items : List Json) (v : Json) :
      Widens (some (arr items)) (.item items.length) (arr (items ++ [v]))

theorem Names.widens {t : String} {d : Json} {s : Step} {put : Json → Json} (h : Names t d s put)
    (v : Json) : Widens (some d) s (put v) := by
  cases h with
  | member members =>
    dsimp only
    cases hold : get? t members with
    | none =>
      have ht := get?_eq_none.mp hold
      rw [insert_of_notMem v ht]
      exact .added members t v ht
    | some old =>
      obtain ⟨before, after, ht, rfl, hinsert⟩ := exists_insert_eq hold
      rw [hinsert v]
      exact .kept before after t old v ht
  | item ht hi => exact .replaced _ _ v hi
  | append ht => exact .appended _ v

/-- A new object is as good as nothing. -/
theorem Widens.of_obj_nil {s : Step} {c : Json} (h : Widens (some (obj [])) s c) :
    Widens none s c := by
  generalize hnil : some (obj []) = o at h
  cases h with
  | made k v => exact .made k v
  | kept before => simp at hnil
  | added members k v hk =>
    obtain rfl : members = [] := by simpa using hnil.symm
    exact .made k v
  | replaced => simp at hnil
  | appended => simp at hnil

/-- `r` is `d` with a value put at a location. -/
structure Placed (value d r : Json) (location : List Step) : Prop where
  holds : r.at? location = some value
  /-- What is neither on the way nor below is as it was. -/
  elsewhere : ∀ q, ¬ q <+: location → ¬ location <+: q → r.at? q = d.at? q
  /-- The containers on the way have changed no more than they had to. -/
  onTheWay : ∀ q s, q ++ [s] <+: location → ∃ c, r.at? q = some c ∧ Widens (d.at? q) s c

namespace Placed

variable {value d : Json}

theorem here (value d : Json) : Placed value d value [] where
  holds := rfl
  elsewhere q _ hq := absurd List.nil_prefix hq
  onTheWay q s hq := by simp at hq

/-- One step more. What the place had in it, or else a new object, has become `next`. -/
theorem cons {t : String} {s : Step} {put : Json → Json} (h : Names t d s put) {next : Json}
    {location : List Step} (hnext : Placed value ((d.down? s).getD (obj [])) next location) :
    Placed value d (put next) (s :: location) where
  holds := by simp [h.down?_put, hnext.holds]
  elsewhere q hway hbelow := by
    cases q with
    | nil => exact absurd List.nil_prefix hway
    | cons s' q =>
      by_cases hs : s' = s
      · subst hs
        simp only [List.cons_prefix_cons, true_and] at hway hbelow
        have hq : q ≠ [] := fun hnil => hway (hnil ▸ List.nil_prefix)
        have hbefore := hnext.elsewhere q hway hbelow
        simpa [h.down?_put, at?_getD_obj_nil _ hq] using hbefore
      · simp [h.down?_put_of_ne hs]
  onTheWay q s' hq := by
    cases q with
    | nil =>
      obtain rfl : s' = s := by simpa using hq
      exact ⟨put next, rfl, h.widens next⟩
    | cons s'' q =>
      rw [List.cons_append, List.cons_prefix_cons] at hq
      obtain ⟨rfl, hq⟩ := hq
      obtain ⟨c, hc, hwidens⟩ := hnext.onTheWay q s' hq
      refine ⟨c, by simp [h.down?_put, hc], ?_⟩
      by_cases hnil : q = []
      · subst hnil
        cases hdown : d.down? s'' with
        | some v => simpa [hdown] using hwidens
        | none =>
          rw [hdown] at hwidens
          simpa [hdown] using hwidens.of_obj_nil
      · rwa [at?_getD_obj_nil _ hnil] at hwidens

end Placed

/-- The token can be read as the step. -/
def Spells (t : String) : Step → Prop
  | .member name => name = t
  | .item i => t = "-" ∨ Pointer.index t = .ok i

theorem Names.spells {t : String} {d : Json} {s : Step} {put : Json → Json} (h : Names t d s put) :
    Spells t s := by
  cases h with
  | member => rfl
  | item ht => exact .inr ht
  | append ht => exact ht

/-- An assignment that succeeds puts the value at a location that its tokens spell. -/
theorem exists_placed {value d r : Json} {ts : List String}
    (h : assign value ts d = (.ok (), r)) :
    ∃ location, List.Forall₂ Spells ts location ∧ Placed value d r location := by
  induction ts generalizing d r with
  | nil =>
    obtain rfl : value = r := congrArg Prod.snd h
    exact ⟨[], .nil, .here value d⟩
  | cons t ts ih =>
    obtain ⟨s, put, next, hnames, hnext, rfl⟩ := assign_cons_ok h
    obtain ⟨location, hspells, hplaced⟩ := ih hnext
    exact ⟨s :: location, .cons hnames.spells hspells, hplaced.cons hnames⟩

theorem assign_of_setInPlace {d r value : Json} {p : String}
    (h : d.setInPlace p value = (.ok (), r)) :
    ∃ ts, Pointer.tokens p = some ts ∧ assign value ts d = (.ok (), r) := by
  unfold setInPlace at h
  split at h
  next ts hts => exact ⟨ts, hts, h⟩
  next => cases h

/-- A document is changed in place while the pointer is followed, but if that fails it is as it was.
If it succeeds, the value is at a location that the pointer spells; whatever is neither on the way
there nor below is as it was; of the objects and arrays on the way only the one member or item is
another, which comes last if it is new; and where there was nothing there are objects with nothing
but the next step in them. -/
theorem assignment_is_atomic_and_local (d : Json) (p : String) (value : Json) :
    (∀ e r, d.setInPlace p value = (.error e, r) → r = d) ∧
    ∀ r, d.setInPlace p value = (.ok (), r) →
      ∃ ts location, Pointer.tokens p = some ts ∧ List.Forall₂ Spells ts location ∧
        Placed value d r location := by
  refine ⟨fun e r h => ?_, fun r h => ?_⟩
  · unfold setInPlace at h
    split at h
    · exact assign_error h
    · exact (congrArg Prod.snd h).symm
  · obtain ⟨ts, hts, hassign⟩ := assign_of_setInPlace h
    obtain ⟨location, hspells, hplaced⟩ := exists_placed hassign
    exact ⟨ts, location, hts, hspells, hplaced⟩

/-- Two new objects are made below the root, and none is if the pointer leads past the end of an
array. -/
theorem assignment_is_atomic_and_local_nested :
    ((obj [("a", arr [null])]).setInPlace "/b/c/d" (bool true) =
        (.ok (), obj [("a", arr [null]), ("b", obj [("c", obj [("d", bool true)])])]) ∧
      ∃ location, List.Forall₂ Spells ["b", "c", "d"] location ∧
        Placed (bool true) (obj [("a", arr [null])])
          (obj [("a", arr [null]), ("b", obj [("c", obj [("d", bool true)])])]) location) ∧
    (obj [("a", arr [null])]).setInPlace "/a/7/b" (bool true) =
      (.error (.outOfBounds 7), obj [("a", arr [null])]) := by
  have hset : (obj [("a", arr [null])]).setInPlace "/b/c/d" (bool true) =
      (.ok (), obj [("a", arr [null]), ("b", obj [("c", obj [("d", bool true)])])]) := rfl
  have htokens : Pointer.tokens "/b/c/d" = some ["b", "c", "d"] := by decide +kernel
  have hfailed : ((obj [("a", arr [null])]).setInPlace "/a/7/b" (bool true)).1 =
      .error (.outOfBounds 7) := rfl
  refine ⟨⟨hset, ?_⟩, Prod.ext hfailed ?_⟩
  · obtain ⟨ts, location, hts, hspells, hplaced⟩ :=
      (assignment_is_atomic_and_local _ "/b/c/d" (bool true)).2 _ hset
    obtain rfl : ["b", "c", "d"] = ts := Option.some.inj (htokens.symm.trans hts)
    exact ⟨location, hspells, hplaced⟩
  · exact (assignment_is_atomic_and_local _ "/a/7/b" (bool true)).1 _ _ (Prod.ext hfailed rfl)

end Codemod.Json
