import Codemod.Json.Reader
import Codemod.Proofs.Json.Members
import Codemod.Proofs.Json.Pieces

/-!
# Reading what was written

Whatever line breaks are written as, as long as they are blank, the reader gets back the value: a
string with its escapes taken back, a whole number from its digits, the items and members in their
order. It needs no more fuel than twice the length of the text.

## Main definitions

* `Stops` — where a number ends.

## Main results

* `readString_quoted`, `readNumber_toString` — strings and numbers.
* `isRead`, `read_pieces` — values and documents.
-/

namespace Codemod.Json

/-! ## Strings -/

theorem readHex_control {n : Nat} (h : n < 32) (s : List Char) :
    readHex ('0' :: '0' :: hexDigit (n / 16) :: hexDigit n :: s) = .ok n := by
  have hsize : ¬ byteSize ('0' :: '0' :: hexDigit (n / 16) :: hexDigit n :: s) < 4 := by
    have h1 := (hexDigit (n / 16)).utf8Size_pos
    have h2 := (hexDigit n).utf8Size_pos
    have h3 := '0'.utf8Size_pos
    simp only [byteSize]
    omega
  have hdigits : ∀ n < 32, hexValue? (hexDigit (n / 16)) = some (n / 16) ∧
      hexValue? (hexDigit n) = some (n % 16) := by decide
  obtain ⟨hhigh, hlow⟩ := hdigits n h
  have hzero : hexValue? '0' = some 0 := rfl
  rw [readHex, if_neg hsize]
  simp only [hzero, hhigh, hlow]
  congr 1
  omega

theorem readEscape_control {c : Char} (h : c.toNat < 32) (s : List Char) :
    readEscape ('u' :: '0' :: '0' :: hexDigit (c.toNat / 16) :: hexDigit c.toNat :: s) =
      .ok (c, 5) := by
  have hhex := readHex_control h s
  simp only [readEscape, Char.reduceEq, decide_false, Bool.or_false, Bool.false_eq_true, if_false,
    if_true, hhex, Bind.bind, Except.bind]
  rw [if_neg (by omega), if_pos (by omega), Char.ofNat_toNat]
  rfl

section

variable {c : Char} {e s cs rest : List Char} (hs : readString s = .ok (cs, rest))

include hs

theorem readString_escape (h : readEscape (e ++ s) = .ok (c, e.length)) :
    readString ('\\' :: (e ++ s)) = .ok (c :: cs, rest) := by
  rw [readString, if_neg (by decide), if_pos rfl, h]
  dsimp only
  rw [List.drop_left, hs]

/-- A character is read from what it is written as in a string. -/
theorem readString_escapeChar : readString (escapeChar c ++ s) = .ok (c :: cs, rest) := by
  unfold escapeChar
  split
  next h => exact h ▸ readString_escape (e := ['\x22']) hs rfl
  split
  next h => exact h ▸ readString_escape (e := ['\\']) hs rfl
  split
  next h => exact h ▸ readString_escape (e := ['b']) hs rfl
  split
  next h => exact h ▸ readString_escape (e := ['f']) hs rfl
  split
  next h => exact h ▸ readString_escape (e := ['n']) hs rfl
  split
  next h => exact h ▸ readString_escape (e := ['r']) hs rfl
  split
  next h => exact h ▸ readString_escape (e := ['t']) hs rfl
  split
  next h =>
    exact readString_escape (e := ['u', '0', '0', hexDigit (c.toNat / 16), hexDigit c.toNat]) hs
      (readEscape_control h s)
  next hquote hslash _ _ _ _ _ hcontrol =>
    rw [List.singleton_append, readString, if_neg hquote, if_neg hslash, if_neg hcontrol, hs]

end

theorem readString_quoted (s tail : List Char) :
    readString (s.flatMap escapeChar ++ '\x22' :: tail) = .ok (s, tail) := by
  induction s with
  | nil => simp [readString]
  | cons c s ih =>
    rw [List.flatMap_cons, List.append_assoc]
    exact readString_escapeChar ih

/-! ## Numbers -/

/-- No number goes on with this text. -/
def Stops (s : List Char) : Prop :=
  ∀ c ∈ s.head?, isDigit c = false ∧ c ≠ '.' ∧ c ≠ 'e' ∧ c ≠ 'E'

theorem le_ofDigitChars (n : Nat) (s : List Char) : n ≤ Nat.ofDigitChars 10 s n := by
  induction s generalizing n with
  | nil => exact Nat.le_refl n
  | cons c s ih =>
    rw [Nat.ofDigitChars_cons]
    have := ih (10 * n + (c.toNat - '0'.toNat))
    omega

/-- All digits are taken as long as the number fits. -/
theorem takeDigits_append {s tail : List Char} (hs : ∀ c ∈ s, isDigit c = true) (htail : Stops tail)
    {n : Nat} (hn : Nat.ofDigitChars 10 s n ≤ maxSignificand) (k : Nat) :
    takeDigits n k (s ++ tail) = (Nat.ofDigitChars 10 s n, k + s.length, tail) := by
  induction s generalizing n k with
  | nil =>
    cases tail with
    | nil => rfl
    | cons c tail =>
      have hc : isDigit c = false := (htail c rfl).1
      simp [takeDigits, hc, Nat.ofDigitChars]
  | cons c s ih =>
    rw [List.forall_mem_cons] at hs
    rw [Nat.ofDigitChars_cons] at hn ⊢
    have hstep : n * 10 + digitValue c = 10 * n + (c.toNat - '0'.toNat) := by
      rw [Nat.mul_comm]
      rfl
    have hfits := Nat.le_trans (le_ofDigitChars _ s) hn
    rw [List.cons_append, takeDigits, if_pos hs.1]
    dsimp only
    rw [hstep, if_pos hfits, ih hs.2 hn, List.length_cons, Nat.add_right_comm, Nat.add_assoc]

/-- A number is read from its digits. -/
theorem readNumber_toString {n : Nat} (hn : n ≤ maxSignificand) {tail : List Char}
    (htail : Stops tail) (positive : Bool) :
    readNumber positive ((toString n).toList ++ tail) = .ok (wholeNumber positive n, tail) := by
  obtain ⟨c, s, hs, hzero⟩ := Text.exists_toString_eq_cons n
  have hdigits : ∀ d ∈ c :: s, isDigit d = true := fun d hd =>
    Text.isDigit_of_mem_toString (hs ▸ hd)
  have hvalue := Text.ofDigitChars_toString n
  rw [hs, Nat.ofDigitChars_cons, Nat.mul_zero, Nat.zero_add] at hvalue
  rw [List.forall_mem_cons] at hdigits
  -- what the digits come to, by the one digit of zero or by all of them
  obtain ⟨k, htaken⟩ : ∃ k, (if c = '0' then (0, 0, s ++ tail)
      else takeDigits (digitValue c) 0 (s ++ tail)) = (n, k, tail) := by
    by_cases hc : c = '0'
    · obtain rfl := hzero hc
      obtain rfl : s = [] := (List.cons.inj hs).2.symm
      exact ⟨0, if_pos hc⟩
    · refine ⟨0 + s.length, ?_⟩
      rw [if_neg hc, ← hvalue]
      exact takeDigits_append hdigits.2 htail (hvalue ▸ hn) 0
  rw [hs, List.cons_append, readNumber, if_pos hdigits.1, htaken]
  cases tail with
  | nil => rfl
  | cons d tail =>
    obtain ⟨hdigit, hpoint, he, hE⟩ := htail d rfl
    simp [hdigit, hpoint, he, hE]

/-- The whole numbers that can be written are read as whole numbers. -/
theorem wholeNumber_natAbs {i : Int} (hi : -2 ^ 63 ≤ i ∧ i < 2 ^ 64) :
    i.natAbs ≤ maxSignificand ∧ wholeNumber (decide (0 ≤ i)) i.natAbs = .int i := by
  have hmax : maxSignificand = 2 ^ 64 - 1 := rfl
  have hpow : Nat.pow 2 63 = 2 ^ 63 := rfl
  refine ⟨by omega, ?_⟩
  rw [wholeNumber]
  split
  next h => rw [Int.natAbs_of_nonneg (of_decide_eq_true h)]
  next h =>
    have hneg : i < 0 := by simpa using h
    rw [if_pos (by omega), Int.ofNat_natAbs_of_nonpos (by omega), Int.neg_neg]

/-! ## Blanks -/

section Blank

variable {b s : List Char} {c : Char}

theorem skipBlank_append (hb : ∀ c ∈ b, isBlank c = true) (s : List Char) :
    skipBlank (b ++ s) = skipBlank s :=
  List.dropWhile_append_of_pos hb

theorem skipBlank_cons (hc : isBlank c = false) (s : List Char) : skipBlank (c :: s) = c :: s :=
  List.dropWhile_cons_of_neg (by simp [hc])

theorem stops_cons (h : isDigit c = false ∧ c ≠ '.' ∧ c ≠ 'e' ∧ c ≠ 'E') (s : List Char) :
    Stops (c :: s) := by
  intro d hd
  cases hd
  exact h

theorem stops_append (hb : ∀ c ∈ b, isBlank c = true) (hs : Stops s) : Stops (b ++ s) := by
  cases b with
  | nil => exact hs
  | cons c b =>
    have hc := hb c List.mem_cons_self
    refine stops_cons ?_ _
    simp only [isBlank, Bool.or_eq_true, beq_iff_eq] at hc
    rcases hc with ((rfl | rfl) | rfl) | rfl <;> decide

theorem isBlank_of_text (h : Text.isBlank c = false) : isBlank c = false := by
  simp only [isBlank, Bool.or_eq_false_iff, beq_eq_false_iff_ne]
  refine ⟨⟨⟨?_, ?_⟩, ?_⟩, ?_⟩ <;> (rintro rfl; simp [Text.isBlank] at h)

end Blank

/-! ## Values -/

/-- What is written with a full start is read from its first character on. -/
theorem StartsFull.exists_textOf {ps : List Piece} (h : StartsFull ps) (breaks : Nat → List Char) :
    ∃ c s, textOf breaks ps = c :: s ∧ isBlank c = false ∧ c ≠ ']' ∧ c ≠ '\x7d' := by
  obtain ⟨c, s, qs, rfl, hblank, hclose⟩ := h
  exact ⟨c, s ++ textOf breaks qs, rfl, isBlank_of_text hblank, hclose⟩

section Values

variable (breaks : Nat → List Char) (depth : Nat)

/-- Wherever it stands, the value is read from what it is written as, with `depth` levels left. -/
def IsRead (v : Json) : Prop :=
  ∀ (level fuel : Nat) (tail : List Char), Stops tail →
    2 * (textOf breaks (pieces level v) ++ tail).length < fuel →
    readValue fuel depth (textOf breaks (pieces level v) ++ tail) = .ok (v, tail)

/-- Likewise for an item and those after it. -/
def ItemsAreRead (v : Json) (rest : List Json) : Prop :=
  ∀ (level fuel : Nat) (before : List Json) (tail : List Char),
    2 * (textOf breaks (pieces (level + 1) v ++ itemPieces level rest) ++ tail).length < fuel →
    readItems (fuel + 1) depth before
      (textOf breaks (pieces (level + 1) v ++ itemPieces level rest) ++ tail) =
        .ok (arr (before ++ v :: rest), tail)

/-- Likewise for a member and those after it. -/
def MembersAreRead (k : String) (v : Json) (rest : List (String × Json)) : Prop :=
  ∀ (level fuel : Nat) (before : List (String × Json)) (tail : List Char),
    ((before ++ (k, v) :: rest).map Prod.fst).Nodup →
    2 * (textOf breaks (pieces (level + 1) v ++ memberPieces level rest) ++ tail).length < fuel →
    readMembers (fuel + 1) depth before ((quote k ++ ": ").toList ++
      (textOf breaks (pieces (level + 1) v ++ memberPieces level rest) ++ tail)) =
        .ok (obj (before ++ (k, v) :: rest), tail)

variable {breaks depth} (hbreaks : ∀ k, ∀ c ∈ breaks k, isBlank c = true) {v w : Json}

/-! ### Items -/

section Items

include hbreaks

theorem stops_itemPieces (level : Nat) (items : List Json) (tail : List Char) :
    Stops (textOf breaks (itemPieces level items) ++ tail) := by
  cases items with
  | nil =>
    rw [itemPieces, textOf, List.append_assoc]
    exact stops_append (hbreaks level) (stops_cons (by decide) _)
  | cons v rest => exact stops_cons (by decide) _

theorem itemsAreRead_nil (hv : IsRead breaks depth v) : ItemsAreRead breaks depth v [] := by
  intro level fuel before tail hfuel
  rw [textOf_append, List.append_assoc] at hfuel ⊢
  have hread := hv (level + 1) fuel _ (stops_itemPieces hbreaks level [] tail) hfuel
  have hskip : skipBlank (textOf breaks (itemPieces level []) ++ tail) = ']' :: tail := by
    rw [itemPieces, textOf, List.append_assoc, skipBlank_append (hbreaks level)]
    exact skipBlank_cons (by decide) tail
  simp only [readItems, hread, Bind.bind, Except.bind, hskip]

theorem itemsAreRead_cons {rest : List Json} (hv : IsRead breaks depth v) (hw : w.All IsOrdinary)
    (hrest : ItemsAreRead breaks depth w rest) : ItemsAreRead breaks depth v (w :: rest) := by
  intro level fuel before tail hfuel
  rw [textOf_append, List.append_assoc] at hfuel ⊢
  have hread := hv (level + 1) fuel _ (stops_itemPieces hbreaks level (w :: rest) tail) hfuel
  obtain ⟨c, s, htext, hblank, hclose, -⟩ :=
    ((startsFull_pieces (level + 1) hw).append (itemPieces level rest)).exists_textOf breaks
  have hcomma : textOf breaks (itemPieces level (w :: rest)) ++ tail =
      ',' :: (breaks (level + 1) ++ (c :: s ++ tail)) := by
    rw [itemPieces, textOf, textOf, htext, List.append_assoc, List.append_assoc]
    rfl
  have hskip : skipBlank (breaks (level + 1) ++ (c :: s ++ tail)) = c :: (s ++ tail) := by
    rw [skipBlank_append (hbreaks _)]
    exact skipBlank_cons hblank _
  rw [hcomma] at hread hfuel ⊢
  -- each item takes one unit of fuel, and its comma pays for it
  obtain ⟨fuel, rfl⟩ : ∃ n, fuel = n + 1 := ⟨fuel - 1, by omega⟩
  have hnext := hrest level fuel (before ++ [v]) tail (by
    rw [htext]
    simp only [List.length_append, List.length_cons] at hfuel ⊢
    omega)
  rw [htext, List.append_assoc, List.singleton_append] at hnext
  rw [readItems]
  simp only [hread, Bind.bind, Except.bind, skipBlank_cons (c := ',') (by decide), hskip]
  split
  next h => cases h
  next h => exact absurd (List.cons.inj h).1 hclose
  next => exact hnext

end Items

/-! ### Members -/

section Members

theorem notMem_of_nodup {k : String} {before rest : List (String × Json)}
    (h : ((before ++ (k, v) :: rest).map Prod.fst).Nodup) : k ∉ before.map Prod.fst := by
  rw [List.map_append, List.nodup_append] at h
  exact fun hk => h.2.2 k hk k (by simp) rfl

/-- The name of a member is read, and then its value. -/
theorem readMember {fuel level : Nat} {tail : List Char} (hv : IsRead breaks depth v)
    (htail : Stops tail) (hfuel : 2 * (textOf breaks (pieces level v) ++ tail).length < fuel)
    (k : String) :
    ∃ s, (quote k ++ ": ").toList ++ (textOf breaks (pieces level v) ++ tail) = '\x22' :: s ∧
      ∃ s', readString s = .ok (k.toList, ':' :: s') ∧ readValue fuel depth s' = .ok (v, tail) := by
  obtain ⟨fuel, rfl⟩ : ∃ n, fuel = n + 1 := ⟨fuel - 1, by omega⟩
  refine ⟨_, ?_, _, readString_quoted k.toList
    (':' :: ' ' :: (textOf breaks (pieces level v) ++ tail)), ?_⟩
  · rw [String.toList_append, toList_quote]
    simp
  · have hread := hv level (fuel + 1) tail htail hfuel
    rw [readValue] at hread ⊢
    exact hread

include hbreaks

theorem stops_memberPieces (level : Nat) (members : List (String × Json)) (tail : List Char) :
    Stops (textOf breaks (memberPieces level members) ++ tail) := by
  cases members with
  | nil =>
    rw [memberPieces, textOf, List.append_assoc]
    exact stops_append (hbreaks level) (stops_cons (by decide) _)
  | cons v rest => exact stops_cons (by decide) _

theorem membersAreRead_nil (hv : IsRead breaks depth v) (k : String) :
    MembersAreRead breaks depth k v [] := by
  intro level fuel before tail hnames hfuel
  rw [textOf_append, List.append_assoc] at hfuel ⊢
  obtain ⟨s, htext, s', hstring, hread⟩ :=
    readMember hv (stops_memberPieces hbreaks level [] tail) hfuel k
  have hskip : skipBlank (textOf breaks (memberPieces level []) ++ tail) = '\x7d' :: tail := by
    rw [memberPieces, textOf, List.append_assoc, skipBlank_append (hbreaks level)]
    exact skipBlank_cons (by decide) tail
  rw [htext]
  simp only [readMembers, hstring, Bind.bind, Except.bind, skipBlank_cons (c := ':') (by decide),
    hread, hskip, String.ofList_toList, insert_of_notMem v (notMem_of_nodup hnames)]

theorem membersAreRead_cons {k l : String} {rest : List (String × Json)}
    (hv : IsRead breaks depth v) (hrest : MembersAreRead breaks depth l w rest) :
    MembersAreRead breaks depth k v ((l, w) :: rest) := by
  intro level fuel before tail hnames hfuel
  rw [textOf_append, List.append_assoc] at hfuel ⊢
  obtain ⟨s, htext, s', hstring, hread⟩ :=
    readMember hv (stops_memberPieces hbreaks level ((l, w) :: rest) tail) hfuel k
  obtain ⟨t, hname⟩ : ∃ t, (quote l ++ ": ").toList ++
      (textOf breaks (pieces (level + 1) w ++ memberPieces level rest) ++ tail) = '\x22' :: t := by
    rw [String.toList_append, toList_quote]
    exact ⟨_, rfl⟩
  have hcomma : textOf breaks (memberPieces level ((l, w) :: rest)) ++ tail =
      ',' :: (breaks (level + 1) ++ '\x22' :: t) := by
    rw [← hname, memberPieces, textOf, textOf, textOf]
    simp only [List.append_assoc]
    rfl
  have hskip : skipBlank (breaks (level + 1) ++ '\x22' :: t) = '\x22' :: t := by
    rw [skipBlank_append (hbreaks _)]
    exact skipBlank_cons (by decide) _
  rw [htext]
  rw [hcomma] at hread hfuel
  obtain ⟨fuel, rfl⟩ : ∃ n, fuel = n + 1 := ⟨fuel - 1, by omega⟩
  have hlength := congrArg List.length hname
  have hnext := hrest level fuel (before ++ [(k, v)]) tail (by simpa using hnames) (by
    simp only [List.length_append, List.length_cons] at hfuel hlength ⊢
    omega)
  rw [hname, List.append_assoc, List.singleton_append] at hnext
  rw [readMembers]
  simp only [hstring, Bind.bind, Except.bind, skipBlank_cons (c := ':') (by decide), hread,
    skipBlank_cons (c := ',') (by decide), hskip, String.ofList_toList,
    insert_of_notMem v (notMem_of_nodup hnames)]
  exact hnext

end Members

/-! ### Values of each kind -/

theorem isRead_arr_cons {rest : List Json} (hbreaks : ∀ k, ∀ c ∈ breaks k, isBlank c = true)
    (hv : v.All IsOrdinary) (h : ItemsAreRead breaks (depth - 1) v rest) (hdepth : 1 < depth) :
    IsRead breaks depth (arr (v :: rest)) := by
  intro level fuel tail _ hfuel
  obtain ⟨c, s, htext, hblank, hclose, -⟩ :=
    ((startsFull_pieces (level + 1) hv).append (itemPieces level rest)).exists_textOf breaks
  have hopen : textOf breaks (pieces level (arr (v :: rest))) ++ tail =
      '[' :: (breaks (level + 1) ++ (c :: s ++ tail)) := by
    rw [pieces, textOf, textOf, htext, List.append_assoc, List.append_assoc]
    rfl
  have hskip : skipBlank (breaks (level + 1) ++ (c :: s ++ tail)) = c :: (s ++ tail) := by
    rw [skipBlank_append (hbreaks _)]
    exact skipBlank_cons hblank _
  rw [hopen] at hfuel ⊢
  obtain ⟨fuel, rfl⟩ : ∃ n, fuel = n + 2 := ⟨fuel - 2, by
    simp only [List.length_cons] at hfuel
    omega⟩
  have hitems := h level fuel [] tail (by
    rw [htext]
    simp only [List.length_append, List.length_cons] at hfuel ⊢
    omega)
  rw [htext, List.nil_append] at hitems
  rw [readValue, skipBlank_cons (by decide)]
  simp only [Char.reduceEq, if_false, if_true, show isDigit '[' = false from rfl,
    Bool.false_eq_true, if_neg (Nat.not_le_of_lt hdepth), hskip]
  split
  next h => exact absurd (List.cons.inj h).1 hclose
  next h => cases h
  next => exact hitems

theorem isRead_obj_cons {k : String} {rest : List (String × Json)}
    (hbreaks : ∀ k, ∀ c ∈ breaks k, isBlank c = true)
    (hnames : (((k, v) :: rest).map Prod.fst).Nodup)
    (h : MembersAreRead breaks (depth - 1) k v rest) (hdepth : 1 < depth) :
    IsRead breaks depth (obj ((k, v) :: rest)) := by
  intro level fuel tail _ hfuel
  obtain ⟨t, hname⟩ : ∃ t, (quote k ++ ": ").toList ++
      (textOf breaks (pieces (level + 1) v ++ memberPieces level rest) ++ tail) = '\x22' :: t := by
    rw [String.toList_append, toList_quote]
    exact ⟨_, rfl⟩
  have hopen : textOf breaks (pieces level (obj ((k, v) :: rest))) ++ tail =
      '\x7b' :: (breaks (level + 1) ++ '\x22' :: t) := by
    rw [← hname, pieces, textOf, textOf, textOf]
    simp only [List.append_assoc]
    rfl
  have hskip : skipBlank (breaks (level + 1) ++ '\x22' :: t) = '\x22' :: t := by
    rw [skipBlank_append (hbreaks _)]
    exact skipBlank_cons (by decide) _
  rw [hopen] at hfuel ⊢
  obtain ⟨fuel, rfl⟩ : ∃ n, fuel = n + 2 := ⟨fuel - 2, by
    simp only [List.length_cons] at hfuel
    omega⟩
  have hlength := congrArg List.length hname
  have hmembers := h level fuel [] tail hnames (by
    simp only [List.length_append, List.length_cons] at hfuel hlength ⊢
    omega)
  rw [hname, List.nil_append] at hmembers
  rw [readValue, skipBlank_cons (by decide)]
  simp only [Char.reduceEq, if_false, if_true, show isDigit '\x7b' = false from rfl,
    Bool.false_eq_true, if_neg (Nat.not_le_of_lt hdepth), hskip]
  exact hmembers

/-- A value that is written on one line. -/
theorem isRead_of_chars {s : List Char} (hpieces : ∀ level, pieces level v = [.chars s])
    (h : ∀ fuel tail, Stops tail → readValue (fuel + 1) depth (s ++ tail) = .ok (v, tail)) :
    IsRead breaks depth v := by
  intro level fuel tail htail hfuel
  obtain ⟨fuel, rfl⟩ : ∃ n, fuel = n + 1 := ⟨fuel - 1, by omega⟩
  rw [hpieces, textOf, textOf, List.append_nil]
  exact h fuel tail htail

theorem isRead_arr_nil (hdepth : 1 < depth) : IsRead breaks depth (arr []) := by
  refine isRead_of_chars (fun _ => by rw [pieces]) fun fuel tail _ => ?_
  simp [readValue, skipBlank, isBlank, isDigit, Nat.not_le_of_lt hdepth]

theorem isRead_obj_nil (hdepth : 1 < depth) : IsRead breaks depth (obj []) := by
  refine isRead_of_chars (fun _ => by rw [pieces]) fun fuel tail _ => ?_
  simp [readValue, skipBlank, isBlank, isDigit, Nat.not_le_of_lt hdepth]

theorem isRead_null : IsRead breaks depth null := by
  refine isRead_of_chars (fun _ => by rw [pieces]) fun fuel tail _ => ?_
  simp [readValue, skipBlank, isBlank, readWord]

theorem isRead_bool (b : Bool) : IsRead breaks depth (bool b) := by
  cases b with
  | true =>
    refine isRead_of_chars (fun _ => by rw [pieces]) fun fuel tail _ => ?_
    simp [readValue, skipBlank, isBlank, readWord]
  | false =>
    refine isRead_of_chars (fun _ => by rw [pieces]) fun fuel tail _ => ?_
    simp [readValue, skipBlank, isBlank, readWord]

theorem isRead_str (s : String) : IsRead breaks depth (str s) := by
  refine isRead_of_chars (fun _ => by rw [pieces]) fun fuel tail _ => ?_
  have hstring := readString_quoted s.toList tail
  rw [toList_quote, List.cons_append, List.append_assoc, List.singleton_append, readValue,
    skipBlank_cons (by decide)]
  simp only [Char.reduceEq, if_false, if_true, show isDigit '\x22' = false from rfl,
    Bool.false_eq_true, hstring, Bind.bind, Except.bind, String.ofList_toList]
  rfl

theorem isRead_int {i : Int} (hi : -2 ^ 63 ≤ i ∧ i < 2 ^ 64) :
    IsRead breaks depth (num (.int i)) := by
  refine isRead_of_chars (fun _ => by rw [pieces]) fun fuel tail htail => ?_
  obtain ⟨hfits, hwhole⟩ := wholeNumber_natAbs hi
  have hnumber := readNumber_toString hfits htail (decide (0 ≤ i))
  rw [hwhole] at hnumber
  rw [toList_write_int]
  split
  next h =>
    rw [decide_eq_false (Int.not_le.mpr h)] at hnumber
    rw [List.singleton_append, List.cons_append, readValue, skipBlank_cons (by decide)]
    simp only [Char.reduceEq, if_false, if_true, hnumber, Bind.bind, Except.bind]
    rfl
  next h =>
    rw [decide_eq_true (Int.not_lt.mp h)] at hnumber
    obtain ⟨c, s, hs, -⟩ := Text.exists_toString_eq_cons i.natAbs
    have hdigit : isDigit c = true :=
      Text.isDigit_of_mem_toString (hs ▸ List.mem_cons_self)
    have hword : c ≠ 'n' ∧ c ≠ 't' ∧ c ≠ 'f' ∧ c ≠ '-' := by
      refine ⟨?_, ?_, ?_, ?_⟩ <;> (rintro rfl; simp [isDigit] at hdigit)
    rw [hs, List.cons_append] at hnumber
    rw [hs, List.nil_append, List.cons_append, readValue,
      skipBlank_cons (isBlank_of_text (isBlank_of_isDigit hdigit).1)]
    simp only [hword, hdigit, if_false, if_true, hnumber, Bind.bind, Except.bind]
    rfl

/-! ### All values -/

mutual

/-- A value is read from what it is written as. -/
theorem isRead (hbreaks : ∀ k, ∀ c ∈ breaks k, isBlank c = true) (v : Json)
    (hv : v.All IsOrdinary) {depth : Nat} (hdepth : v.nesting < depth) : IsRead breaks depth v :=
  match v with
  | arr (v :: rest) => by
    obtain ⟨-, hv, hrest⟩ := hv
    rw [nesting, nestingItems] at hdepth
    have hitems : ItemsAreRead breaks (depth - 1) v rest :=
      itemsAreRead hbreaks rest hrest (by omega) (isRead hbreaks v hv (by omega))
    exact isRead_arr_cons hbreaks hv hitems (by omega)
  | obj ((k, v) :: rest) => by
    obtain ⟨hnames, hv, hrest⟩ := hv
    rw [nesting, nestingMembers] at hdepth
    have hmembers : MembersAreRead breaks (depth - 1) k v rest :=
      membersAreRead hbreaks rest hrest (by omega) k (isRead hbreaks v hv (by omega))
    exact isRead_obj_cons hbreaks hnames hmembers (by omega)
  | arr [] => isRead_arr_nil (Nat.lt_of_le_of_lt (Nat.le_add_left 1 _) hdepth)
  | obj [] => isRead_obj_nil (Nat.lt_of_le_of_lt (Nat.le_add_left 1 _) hdepth)
  | null => isRead_null
  | bool b => isRead_bool b
  | num (.int i) => isRead_int hv
  | num (.float x) => hv.elim
  | str s => isRead_str s

theorem itemsAreRead (hbreaks : ∀ k, ∀ c ∈ breaks k, isBlank c = true) (rest : List Json)
    (hrest : AllItems IsOrdinary rest) {depth : Nat} (hdepth : nestingItems rest < depth)
    {v : Json} (hread : IsRead breaks depth v) : ItemsAreRead breaks depth v rest :=
  match rest with
  | [] => itemsAreRead_nil hbreaks hread
  | w :: rest => by
    obtain ⟨hw, hrest⟩ := hrest
    rw [nestingItems] at hdepth
    exact itemsAreRead_cons hbreaks hread hw (itemsAreRead hbreaks rest hrest (by omega)
      (isRead hbreaks w hw (by omega)))

theorem membersAreRead (hbreaks : ∀ k, ∀ c ∈ breaks k, isBlank c = true)
    (rest : List (String × Json)) (hrest : AllMembers IsOrdinary rest) {depth : Nat}
    (hdepth : nestingMembers rest < depth) (k : String) {v : Json} (hread : IsRead breaks depth v) :
    MembersAreRead breaks depth k v rest :=
  match rest with
  | [] => membersAreRead_nil hbreaks hread k
  | (l, w) :: rest => by
    obtain ⟨hw, hrest⟩ := hrest
    rw [nestingMembers] at hdepth
    exact membersAreRead_cons hbreaks hread (membersAreRead hbreaks rest hrest (by omega) l
      (isRead hbreaks w hw (by omega)))

end

theorem stops_of_blank {b : List Char} (hb : ∀ c ∈ b, isBlank c = true) : Stops b := by
  have hstops : Stops (b ++ []) := stops_append hb (fun _ h => by cases h)
  rwa [List.append_nil] at hstops

theorem read_of_readValue {s blanks : List Char} {v : Json}
    (hread : readValue (2 * s.length + 2) maxDepth s = .ok (v, blanks))
    (hblanks : ∀ c ∈ blanks, isBlank c = true) : read s = .ok v := by
  have hskip : skipBlank blanks = [] := by
    have := skipBlank_append hblanks []
    rwa [List.append_nil] at this
  rw [read, hread]
  simp only [Bind.bind, Except.bind, hskip]

/-- A text that holds a value and blanks after it. -/
theorem read_pieces (hbreaks : ∀ k, ∀ c ∈ breaks k, isBlank c = true) {v : Json}
    (hv : v.All IsOrdinary) (hdepth : v.nesting < maxDepth) {blanks : List Char}
    (hblanks : ∀ c ∈ blanks, isBlank c = true) :
    read (textOf breaks (pieces 0 v) ++ blanks) = .ok v :=
  read_of_readValue
    (isRead hbreaks v hv hdepth 0 _ blanks (stops_of_blank hblanks) (by omega)) hblanks

end Values

end Codemod.Json
