import Codemod.Proofs.Json.RoundTrip

/-!
# The limits of the reader

Whatever text a value is read from, its whole numbers fit in sixty-four bits and the names in an
object differ. How deep a text may nest decides only whether it can be read at all: with more levels
left, it is read as the same value. So a value that was written under a layout of blanks is read
again, or else it is too deep.

## Main definitions

* `IsSound`, `IsWhole` — which values can be read, and which of them have no doubles.
* `Agrees` — results that differ at most in that one text was too deep.

## Main results

* `isSound_parse` — what can be read.
* `readsAlike` — reading with more levels left.
* `read_render` — documents that are read again.
-/

namespace Codemod.Json

/-! ## Values -/

def Num.Fits : Num → Prop
  | .int i => -2 ^ 63 ≤ i ∧ i < 2 ^ 64
  | .float _ => True

/-- A whole number fits in sixty-four bits, with or without a sign, and no two members of an object
have the same name. -/
def IsSound : Json → Prop
  | num n => n.Fits
  | obj members => (members.map Prod.fst).Nodup
  | _ => True

/-- The value is not a double. -/
def IsWhole : Json → Prop
  | num (.float _) => False
  | _ => True

section All

variable {p : Json → Prop} {items : List Json} {members : List (String × Json)}

theorem allItems_iff : AllItems p items ↔ ∀ v ∈ items, v.All p := by
  induction items with
  | nil => simp [AllItems]
  | cons v rest ih => simp [AllItems, ih]

theorem allMembers_iff : AllMembers p members ↔ ∀ m ∈ members, m.2.All p := by
  induction members with
  | nil => simp [AllMembers]
  | cons m rest ih => simp [AllMembers, ih]

theorem all_arr_append {v : Json} (hitems : (arr items).All p) (hv : v.All p)
    (hp : p (arr (items ++ [v]))) : (arr (items ++ [v])).All p := by
  rw [All, allItems_iff] at hitems ⊢
  exact ⟨hp, by grind⟩

theorem all_obj_insert {k : String} {v : Json} (hmembers : (obj members).All p) (hv : v.All p)
    (hp : p (obj (insert k v members))) : (obj (insert k v members)).All p := by
  rw [All, allMembers_iff] at hmembers ⊢
  obtain ⟨-, hall⟩ := hmembers
  refine ⟨hp, ?_⟩
  clear hp
  fun_induction insert k v members with
  | case1 => simpa using hv
  | case2 w rest => exact List.forall_mem_cons.mpr ⟨hv, (List.forall_mem_cons.mp hall).2⟩
  | case3 l w rest hl ih =>
    rw [List.forall_mem_cons] at hall ⊢
    exact ⟨hall.1, ih hall.2⟩

theorem mem_insert_fst {k l : String} {v : Json} :
    l ∈ (insert k v members).map Prod.fst ↔ l = k ∨ l ∈ members.map Prod.fst := by
  fun_induction insert k v members <;> grind

theorem nodup_insert {k : String} {v : Json} (h : (members.map Prod.fst).Nodup) :
    ((insert k v members).map Prod.fst).Nodup := by
  fun_induction insert k v members with
  | case1 => simp
  | case2 w rest => exact h
  | case3 l w rest hl ih =>
    rw [List.map_cons, List.nodup_cons] at h ⊢
    refine ⟨?_, ih h.2⟩
    rw [mem_insert_fst]
    grind

end All

mutual

theorem All.isOrdinary {v : Json} (hsound : v.All IsSound) (hwhole : v.All IsWhole) :
    v.All IsOrdinary := by
  match v with
  | arr items => exact ⟨trivial, allItems_isOrdinary hsound.2 hwhole.2⟩
  | obj members => exact ⟨hsound.1, allMembers_isOrdinary hsound.2 hwhole.2⟩
  | null => trivial
  | bool b => trivial
  | num (.int i) => exact hsound
  | num (.float x) => exact hwhole.elim
  | str s => trivial

theorem allItems_isOrdinary {items : List Json} (hsound : AllItems IsSound items)
    (hwhole : AllItems IsWhole items) : AllItems IsOrdinary items := by
  match items with
  | [] => trivial
  | v :: rest => exact ⟨hsound.1.isOrdinary hwhole.1, allItems_isOrdinary hsound.2 hwhole.2⟩

theorem allMembers_isOrdinary {members : List (String × Json)}
    (hsound : AllMembers IsSound members) (hwhole : AllMembers IsWhole members) :
    AllMembers IsOrdinary members := by
  match members with
  | [] => trivial
  | (k, v) :: rest => exact ⟨hsound.1.isOrdinary hwhole.1, allMembers_isOrdinary hsound.2 hwhole.2⟩

end

/-! ## What can be read -/

/-- What is read, if anything is, has a property. -/
def Yields (p : α → Prop) (r : Except Fault (α × List Char)) : Prop :=
  ∀ v rest, r = .ok (v, rest) → p v

namespace Yields

variable {p : α → Prop} {q : β → Prop}

@[simp] theorem error (f : Fault) : Yields p (.error f) := fun _ _ h => by cases h

@[simp] theorem ok {v : α} {rest : List Char} : Yields p (.ok (v, rest)) ↔ p v := by
  simp [Yields]

theorem bind {x : Except Fault (α × List Char)} {k : α × List Char → Except Fault (β × List Char)}
    (hx : Yields p x) (hk : ∀ v rest, p v → Yields q (k (v, rest))) : Yields q (x >>= k) := by
  rcases x with f | ⟨v, rest⟩
  · exact error f
  · exact hk v rest (hx v rest rfl)

theorem ite {c : Prop} [Decidable c] {r r' : Except Fault (α × List Char)} (hr : Yields p r)
    (hr' : Yields p r') : Yields p (if c then r else r') := by
  split
  · exact hr
  · exact hr'

theorem trivial (r : Except Fault (α × List Char)) : Yields (fun _ => True) r :=
  fun _ _ _ => True.intro

end Yields

/-! ### Numbers -/

section Numbers

variable (positive : Bool) (n : Nat) (e : Int) (s : List Char)

@[simp] theorem fits_float (x : Binary64) : (Num.float x).Fits := True.intro

@[simp] theorem fits_floatAt : Yields Num.Fits (floatAt positive n e s) := by
  rw [floatAt]
  split <;> simp

@[simp] theorem fits_readExponent : Yields Num.Fits (readExponent positive n e s) := by
  unfold readExponent
  dsimp only
  repeat' split
  all_goals simp

@[simp] theorem fits_readTail : Yields Num.Fits (readTail positive n e s) := by
  unfold readTail
  split <;> simp

@[simp] theorem fits_readDecimal : Yields Num.Fits (readDecimal positive n e s) := by
  unfold readDecimal
  dsimp only
  repeat' split
  all_goals simp

theorem takeDigits_le {n : Nat} (h : n ≤ maxSignificand) (k : Nat) (s : List Char) :
    (takeDigits n k s).1 ≤ maxSignificand := by
  fun_induction takeDigits n k s <;> simp_all

theorem fits_wholeNumber {n : Nat} (h : n ≤ maxSignificand) : (wholeNumber positive n).Fits := by
  have hmax : maxSignificand = 2 ^ 64 - 1 := rfl
  have hpow : Nat.pow 2 63 = 2 ^ 63 := rfl
  rw [wholeNumber]
  split
  · exact ⟨by omega, by omega⟩
  · split
    · exact ⟨by omega, by omega⟩
    · exact True.intro

theorem fits_readNumber : Yields Num.Fits (readNumber positive s) := by
  cases s with
  | nil => exact .error _
  | cons c s =>
    rw [readNumber]
    split
    next hdigit =>
      have hfirst : digitValue c ≤ maxSignificand := by
        have hrange : c.toNat ≤ 57 := by
          simp only [isDigit, Bool.and_eq_true, decide_eq_true_eq] at hdigit
          exact UInt32.le_iff_toNat_le.mp hdigit.2
        have hmax : maxSignificand = 2 ^ 64 - 1 := rfl
        rw [digitValue]
        omega
      rcases htaken : (if c = '0' then (0, 0, s) else takeDigits (digitValue c) 0 s) with
        ⟨n, k, rest⟩
      have hn : n ≤ maxSignificand := by
        have hle := takeDigits_le hfirst 0 s
        grind
      have hwhole := fits_wholeNumber positive hn
      dsimp only
      repeat' split
      all_goals simp [hwhole]
    · exact .error _

end Numbers

/-! ### All values -/

theorem isSound_readWord {v : Json} (hv : v.All IsSound) (w s : List Char) :
    Yields (All IsSound) (readWord v w s) := by
  fun_induction readWord v w s with
  | case1 => exact Yields.ok.mpr hv
  | case2 => exact .error _
  | case3 a w s ih => exact ih
  | case4 => exact .error _

theorem all_arr_nil : (arr []).All IsSound := ⟨True.intro, True.intro⟩

theorem all_obj_nil : (obj []).All IsSound := ⟨List.nodup_nil, True.intro⟩

/-- With so much fuel, sound values are read. -/
structure ReadsSound (fuel : Nat) : Prop where
  value : ∀ depth s, Yields (All IsSound) (readValue fuel depth s)
  items : ∀ depth before s, (arr before).All IsSound →
    Yields (All IsSound) (readItems fuel depth before s)
  members : ∀ depth before s, (obj before).All IsSound →
    Yields (All IsSound) (readMembers fuel depth before s)

section

variable {fuel : Nat} (h : ReadsSound fuel)

include h

theorem ReadsSound.readValue (depth : Nat) (s : List Char) :
    Yields (All IsSound) (readValue (fuel + 1) depth s) := by
  have hnull (w s : List Char) := isSound_readWord (v := null) True.intro w s
  have hbool (b : Bool) (w s : List Char) := isSound_readWord (v := bool b) True.intro w s
  have hitems (depth : Nat) (s : List Char) := h.items depth [] s all_arr_nil
  have hmembers (depth : Nat) (s : List Char) := h.members depth [] s all_obj_nil
  rw [Json.readValue]
  cases skipBlank s with
  | nil => exact .error _
  | cons c rest =>
    -- words, numbers and strings
    refine .ite (hnull _ _) (.ite (hbool _ _ _) (.ite (hbool _ _ _) (.ite ?_ (.ite ?_ (.ite ?_
      (.ite (.ite (.error _) ?_) (.ite (.ite (.error _) ?_) (.error _))))))))
    iterate 2 exact (fits_readNumber _ _).bind fun n rest hn => Yields.ok.mpr hn
    · exact Yields.bind (.trivial _) fun cs rest _ => Yields.ok.mpr True.intro
    · split <;> simp [hitems, all_arr_nil]
    · split <;> simp [hmembers, all_obj_nil]

theorem ReadsSound.readItems (depth : Nat) {before : List Json} (hbefore : (arr before).All IsSound)
    (s : List Char) : Yields (All IsSound) (readItems (fuel + 1) depth before s) := by
  rw [Json.readItems]
  refine (h.value depth s).bind fun v rest hv => ?_
  have hmore : (arr (before ++ [v])).All IsSound := all_arr_append hbefore hv True.intro
  have hrest (s : List Char) := h.items depth (before ++ [v]) s hmore
  dsimp only
  repeat' split
  all_goals simp [hmore, hrest]

theorem ReadsSound.readMembers (depth : Nat) {before : List (String × Json)}
    (hbefore : (obj before).All IsSound) (s : List Char) :
    Yields (All IsSound) (readMembers (fuel + 1) depth before s) := by
  rw [Json.readMembers.eq_def]
  dsimp only
  split
  next rest =>
    refine Yields.bind (.trivial _) fun cs rest _ => ?_
    dsimp only
    split
    · exact .error _
    · refine (h.value depth _).bind fun v rest hv => ?_
      have hmore : (obj (insert (String.ofList cs) v before)).All IsSound :=
        all_obj_insert hbefore hv (nodup_insert hbefore.1)
      have hrest (s : List Char) := h.members depth _ s hmore
      dsimp only
      repeat' split
      all_goals simp [hmore, hrest]
    · exact .error _
  · exact .error _

end

theorem readsSound (fuel : Nat) : ReadsSound fuel := by
  induction fuel with
  | zero =>
    refine ⟨fun depth s => ?_, fun depth before s _ => ?_, fun depth before s _ => ?_⟩
    · rw [readValue]
      exact .error _
    · rw [readItems]
      exact .error _
    · rw [readMembers]
      exact .error _
  | succ fuel ih =>
    exact ⟨ih.readValue, fun depth before s h => ih.readItems depth h s,
      fun depth before s h => ih.readMembers depth h s⟩

/-- Whatever is read is sound. -/
theorem isSound_read {s : List Char} {v : Json} (h : read s = .ok v) : v.All IsSound := by
  rw [read] at h
  rcases hread : readValue (2 * s.length + 2) maxDepth s with f | ⟨w, rest⟩
  · simp [hread, Bind.bind, Except.bind] at h
  · have hw := (readsSound _).value _ _ _ _ hread
    simp only [hread, Bind.bind, Except.bind] at h
    split at h
    · cases h
      exact hw
    · cases h

theorem isSound_parse {src : String} {v : Json} (h : parse src = .ok v) : v.All IsSound := by
  unfold parse at h
  split at h
  next hread =>
    cases h
    exact isSound_read hread
  next => cases h

/-! ## Reading with more levels left -/

/-- The results are the same, unless the first is that a text is too deep. -/
def Agrees (r r' : Except Fault α) : Prop :=
  r = r' ∨ ∃ f, r = .error f ∧ f.cause = .tooDeep

namespace Agrees

@[simp] theorem refl (r : Except Fault α) : Agrees r r := .inl rfl

theorem bind {x x' : Except Fault α} {k k' : α → Except Fault β} (hx : Agrees x x')
    (hk : ∀ a, Agrees (k a) (k' a)) : Agrees (x >>= k) (x' >>= k') := by
  obtain rfl | ⟨f, rfl, hf⟩ := hx
  · cases x with
    | error f => exact refl _
    | ok a => exact hk a
  · exact .inr ⟨f, rfl, hf⟩

theorem ite {c : Prop} [Decidable c] {a a' b b' : Except Fault α} (ha : Agrees a a')
    (hb : Agrees b b') : Agrees (if c then a else b) (if c then a' else b') := by
  split
  · exact ha
  · exact hb

theorem level {depth depth' : Nat} (hdepth : depth ≤ depth') {r r' : Except Fault α}
    (h : Agrees r r') {s : List Char} :
    Agrees (if depth ≤ 1 then .error (Cause.tooDeep.at s) else r)
      (if depth' ≤ 1 then .error (Cause.tooDeep.at s) else r') := by
  split
  · exact .inr ⟨_, rfl, rfl⟩
  · rwa [if_neg (by omega)]

end Agrees

/-- With so much fuel, it makes no difference for texts that are not too deep how many levels are
left. -/
structure ReadsAlike (fuel : Nat) : Prop where
  value : ∀ {depth depth' : Nat}, depth ≤ depth' → ∀ s,
    Agrees (readValue fuel depth s) (readValue fuel depth' s)
  items : ∀ {depth depth' : Nat}, depth ≤ depth' → ∀ before s,
    Agrees (readItems fuel depth before s) (readItems fuel depth' before s)
  members : ∀ {depth depth' : Nat}, depth ≤ depth' → ∀ before s,
    Agrees (readMembers fuel depth before s) (readMembers fuel depth' before s)

section

variable {fuel depth depth' : Nat} (h : ReadsAlike fuel) (hdepth : depth ≤ depth')

include h hdepth

theorem ReadsAlike.readValue (s : List Char) :
    Agrees (readValue (fuel + 1) depth s) (readValue (fuel + 1) depth' s) := by
  rw [Json.readValue, Json.readValue]
  have hless : depth - 1 ≤ depth' - 1 := Nat.sub_le_sub_right hdepth 1
  have hitems (s : List Char) := h.items hless [] s
  have hmembers (s : List Char) := h.members hless [] s
  cases skipBlank s with
  | nil => exact .refl _
  | cons c rest =>
    -- words, numbers and strings do not look at the level
    iterate 6 refine .ite (.refl _) ?_
    refine .ite (.level hdepth ?_) (.ite (.level hdepth ?_) (.refl _))
    · split <;> simp [hitems]
    · split <;> simp [hmembers]

theorem ReadsAlike.readItems (before : List Json) (s : List Char) :
    Agrees (readItems (fuel + 1) depth before s) (readItems (fuel + 1) depth' before s) := by
  rw [Json.readItems, Json.readItems]
  refine (h.value hdepth s).bind ?_
  rintro ⟨v, rest⟩
  have hrest (s : List Char) := h.items hdepth (before ++ [v]) s
  dsimp only
  repeat' split
  all_goals simp [hrest]

theorem ReadsAlike.readMembers (before : List (String × Json)) (s : List Char) :
    Agrees (readMembers (fuel + 1) depth before s) (readMembers (fuel + 1) depth' before s) := by
  rw [Json.readMembers.eq_def, Json.readMembers.eq_def]
  dsimp only
  split
  next rest =>
    refine (Agrees.refl _).bind ?_
    rintro ⟨cs, rest⟩
    dsimp only
    split
    · exact .refl _
    · refine (h.value hdepth _).bind ?_
      rintro ⟨v, rest⟩
      have hrest (s : List Char) := h.members hdepth (insert (String.ofList cs) v before) s
      dsimp only
      repeat' split
      all_goals simp [hrest]
    · exact .refl _
  · exact .refl _

end

theorem readsAlike (fuel : Nat) : ReadsAlike fuel := by
  induction fuel with
  | zero =>
    refine ⟨fun _ s => ?_, fun _ before s => ?_, fun _ before s => ?_⟩
    · rw [readValue, readValue]
      exact .refl _
    · rw [readItems, readItems]
      exact .refl _
    · rw [readMembers, readMembers]
      exact .refl _
  | succ fuel ih => exact ⟨ih.readValue, ih.readItems, ih.readMembers⟩

/-! ## Documents -/

/-- A value that was written with blanks is read again, unless it is too deep. -/
theorem read_render {unit : String} (hunit : ∀ c ∈ unit.toList, c = ' ' ∨ c = '\t')
    (e : LineEnding) {v : Json} (hv : v.All IsOrdinary) :
    Agrees (read (Layout.render ⟨unit, e⟩ v).toList) (.ok v) := by
  have hbreaks := isBlank_breaks hunit e
  rw [toList_render (unbroken_of_blank hunit) hv]
  set s := textOf (Layout.breaks ⟨unit, e⟩) (pieces 0 v) ++ e.chars with hs
  -- with enough levels left, the value is read from its pieces
  have hread := isRead hbreaks v hv (Nat.lt_of_lt_of_le (Nat.lt_succ_self _)
    (Nat.le_max_right maxDepth _)) 0 (2 * s.length + 2) e.chars (stops_of_blank (isBlank_chars e))
    (by rw [← hs]; omega)
  have hagrees := (readsAlike (2 * s.length + 2)).value
    (Nat.le_max_left maxDepth (v.nesting + 1)) s
  rw [← hs] at hread
  rw [hread] at hagrees
  obtain hsame | ⟨f, hf, hcause⟩ := hagrees
  · exact .inl (read_of_readValue hsame (isBlank_chars e))
  · exact .inr ⟨f, by rw [read, hf]; rfl, hcause⟩

end Codemod.Json
