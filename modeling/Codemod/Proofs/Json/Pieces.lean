import Codemod.Json.Layout
import Codemod.Proofs.Text.Unbroken
import Mathlib.Algebra.Group.Int.Defs

/-!
# The pieces of a written value

A value in its pretty form is a sequence of characters and line breaks, each of which begins a line
at some level. The form it takes on paper, the unit of indentation and the line ending, is in what a
line break is written as.

Taken line by line, the level goes up or down by one at most, and every line begins with a character
that is not blank.

## Main definitions

* `Piece`, `textOf` — characters and line breaks, and what they are written as.
* `pieces` — the pretty form of a value.
* `All`, `IsOrdinary`, `nesting` — which values there are.
* `Laid` — how lines follow one another.

## Main results

* `toList_prettyAt` — the pretty form is written from its pieces.
* `laid_pieces` — the lines of a value.
-/

namespace Codemod.Json

/-! ## Values -/

mutual

/-- The property holds of a value and of all values in it. -/
def All (p : Json → Prop) : Json → Prop
  | arr items => p (arr items) ∧ AllItems p items
  | obj members => p (obj members) ∧ AllMembers p members
  | v => p v

def AllItems (p : Json → Prop) : List Json → Prop
  | [] => True
  | v :: rest => v.All p ∧ AllItems p rest

def AllMembers (p : Json → Prop) : List (String × Json) → Prop
  | [] => True
  | (_, v) :: rest => v.All p ∧ AllMembers p rest

end

/-- A number is a whole number of sixty-four bits, with or without a sign, and no two members of an
object have the same name. -/
def IsOrdinary : Json → Prop
  | num (.int i) => -2 ^ 63 ≤ i ∧ i < 2 ^ 64
  | num (.float _) => False
  | obj members => (members.map Prod.fst).Nodup
  | _ => True

mutual

/-- How deep arrays and objects stand in one another. -/
def nesting : Json → Nat
  | arr items => nestingItems items + 1
  | obj members => nestingMembers members + 1
  | _ => 0

def nestingItems : List Json → Nat
  | [] => 0
  | v :: rest => max v.nesting (nestingItems rest)

def nestingMembers : List (String × Json) → Nat
  | [] => 0
  | (_, v) :: rest => max v.nesting (nestingMembers rest)

end

/-! ## Pieces -/

/-- Characters within a line, or the break before a line at some level. -/
inductive Piece where
  | chars (s : List Char)
  | newline (level : Nat)

/-- What pieces are written as, given the line breaks. -/
def textOf (breaks : Nat → List Char) : List Piece → List Char
  | [] => []
  | .chars s :: rest => s ++ textOf breaks rest
  | .newline level :: rest => breaks level ++ textOf breaks rest

@[simp] theorem textOf_append (breaks : Nat → List Char) (ps qs : List Piece) :
    textOf breaks (ps ++ qs) = textOf breaks ps ++ textOf breaks qs := by
  induction ps with
  | nil => rfl
  | cons p ps ih => cases p <;> simp [textOf, ih]

mutual

/-- The pretty form at a level. -/
def pieces (level : Nat) : Json → List Piece
  | arr (v :: rest) =>
    .chars ['['] :: .newline (level + 1) :: (pieces (level + 1) v ++ itemPieces level rest)
  | obj ((k, v) :: rest) =>
    .chars ['\x7b'] :: .newline (level + 1) :: .chars (quote k ++ ": ").toList ::
      (pieces (level + 1) v ++ memberPieces level rest)
  | arr [] => [.chars "[]".toList]
  | obj [] => [.chars "\x7b\x7d".toList]
  | null => [.chars "null".toList]
  | bool true => [.chars "true".toList]
  | bool false => [.chars "false".toList]
  | num n => [.chars n.write.toList]
  | str s => [.chars (quote s).toList]

/-- The items after the first, and the closing bracket. -/
def itemPieces (level : Nat) : List Json → List Piece
  | [] => [.newline level, .chars [']']]
  | v :: rest =>
    .chars [','] :: .newline (level + 1) :: (pieces (level + 1) v ++ itemPieces level rest)

/-- The members after the first, and the closing brace. -/
def memberPieces (level : Nat) : List (String × Json) → List Piece
  | [] => [.newline level, .chars ['\x7d']]
  | (k, v) :: rest =>
    .chars [','] :: .newline (level + 1) :: .chars (quote k ++ ": ").toList ::
      (pieces (level + 1) v ++ memberPieces level rest)

end

/-- The line breaks of a layout. -/
def Layout.breaks (l : Layout) (level : Nat) : List Char :=
  l.eol.chars ++ (List.replicate level l.unit.toList).flatten

theorem toList_newline (unit : String) (level : Nat) :
    (newline unit level).toList = Layout.breaks ⟨unit, .lf⟩ level := by
  induction level with
  | zero => simp [newline, Layout.breaks, LineEnding.chars]
  | succ level ih =>
    rw [newline, String.toList_append, ih, Layout.breaks, Layout.breaks, List.append_assoc,
      List.replicate_succ', List.flatten_append, List.flatten_singleton]

mutual

/-- The pretty form is written from its pieces. -/
theorem toList_prettyAt (unit : String) (level : Nat) (v : Json) :
    (prettyAt unit level v).toList = textOf (Layout.breaks ⟨unit, .lf⟩) (pieces level v) := by
  match v with
  | arr (v :: rest) =>
    simp [prettyAt, pieces, textOf, toList_newline, toList_prettyAt unit (level + 1) v,
      toList_prettyItems unit level rest]
  | obj ((k, v) :: rest) =>
    simp [prettyAt, pieces, textOf, toList_newline, toList_prettyAt unit (level + 1) v,
      toList_prettyMembers unit level rest]
  | arr [] => simp [prettyAt, pieces, textOf]
  | obj [] => simp [prettyAt, pieces, textOf]
  | null => simp [prettyAt, pieces, textOf]
  | bool true => simp [prettyAt, pieces, textOf]
  | bool false => simp [prettyAt, pieces, textOf]
  | num n => simp [prettyAt, pieces, textOf]
  | str s => simp [prettyAt, pieces, textOf]

theorem toList_prettyItems (unit : String) (level : Nat) (items : List Json) :
    (prettyItems unit level items).toList =
      textOf (Layout.breaks ⟨unit, .lf⟩) (itemPieces level items) := by
  match items with
  | [] => simp [prettyItems, itemPieces, textOf, toList_newline]
  | v :: rest =>
    simp [prettyItems, itemPieces, textOf, toList_newline, toList_prettyAt unit (level + 1) v,
      toList_prettyItems unit level rest]

theorem toList_prettyMembers (unit : String) (level : Nat) (members : List (String × Json)) :
    (prettyMembers unit level members).toList =
      textOf (Layout.breaks ⟨unit, .lf⟩) (memberPieces level members) := by
  match members with
  | [] => simp [prettyMembers, memberPieces, textOf, toList_newline]
  | (k, v) :: rest =>
    simp [prettyMembers, memberPieces, textOf, toList_newline,
      toList_prettyAt unit (level + 1) v, toList_prettyMembers unit level rest]

end

/-! ## Lines -/

/-- Begun on a line at level `a`, the pieces end on a line at level `b`. From line to line the level
changes by one at most; a line begins with a character that is not blank, and there are no other
line breaks. -/
inductive Laid : (a : Nat) → List Piece → (b : Nat) → Prop
  | nil (a : Nat) : Laid a [] a
  | chars {a b : Nat} {s : List Char} {ps : List Piece} (plain : Text.Unbroken s)
      (rest : Laid a ps b) : Laid a (.chars s :: ps) b
  | newline {a b k : Nat} {c : Char} {s : List Char} {ps : List Piece} (up : k ≤ a + 1)
      (down : a ≤ k + 1) (mark : Text.isBlank c = false)
      (plain : Text.Unbroken (c :: s)) (rest : Laid k ps b) :
      Laid a (.newline k :: .chars (c :: s) :: ps) b

theorem Laid.append {a b c : Nat} {ps qs : List Piece} (h : Laid a ps b) (h' : Laid b qs c) :
    Laid a (ps ++ qs) c := by
  induction h with
  | nil => exact h'
  | chars plain _ ih => exact .chars plain (ih h')
  | newline up down mark plain _ ih => exact .newline up down mark plain (ih h')

/-- The pieces begin with a character that is not blank and opens no break. -/
def StartsFull (ps : List Piece) : Prop :=
  ∃ c s qs, ps = .chars (c :: s) :: qs ∧ Text.isBlank c = false ∧ c ≠ ']' ∧ c ≠ '\x7d'

theorem StartsFull.laid {a b k : Nat} {ps : List Piece} (h : StartsFull ps) (up : k ≤ a + 1)
    (down : a ≤ k + 1) (rest : Laid k ps b) : Laid a (.newline k :: ps) b := by
  obtain ⟨c, s, qs, rfl, mark, -, -⟩ := h
  cases rest with
  | chars plain rest => exact .newline up down mark plain rest

theorem StartsFull.append {ps : List Piece} (h : StartsFull ps) (qs : List Piece) :
    StartsFull (ps ++ qs) := by
  obtain ⟨c, s, rest, rfl, mark⟩ := h
  exact ⟨c, s, rest ++ qs, rfl, mark⟩

theorem plain_hexDigit (n : Nat) : hexDigit n ≠ '\n' ∧ hexDigit n ≠ '\r' := by
  have hdigit : ∀ k < 16, Nat.digitChar k ≠ '\n' ∧ Nat.digitChar k ≠ '\r' := by decide
  exact hdigit (n % 16) (Nat.mod_lt n (by decide))

/-- A line break in a string is escaped. -/
theorem unbroken_escapeChar (c : Char) : Text.Unbroken (escapeChar c) := by
  unfold escapeChar
  repeat' split
  all_goals simp [Text.Unbroken, plain_hexDigit, *]

theorem toList_quote (s : String) :
    (quote s).toList = '\x22' :: (s.toList.flatMap escapeChar ++ ['\x22']) := by
  rw [quote, String.toList_ofList]

theorem unbroken_quote (s : String) : Text.Unbroken (quote s).toList := by
  rw [toList_quote, Text.unbroken_cons, Text.unbroken_append]
  refine ⟨by decide, fun d hd => ?_, by decide⟩
  obtain ⟨c, -, hd⟩ := List.mem_flatMap.mp hd
  exact unbroken_escapeChar c d hd

theorem unbroken_key (k : String) : Text.Unbroken (quote k ++ ": ").toList := by
  rw [String.toList_append, Text.unbroken_append]
  exact ⟨unbroken_quote k, by decide⟩

theorem toList_write_int (i : Int) :
    (Num.write (.int i)).toList =
      (if i < 0 then ['-'] else []) ++ (toString i.natAbs).toList := by
  cases i with
  | ofNat n => rfl
  | negSucc n =>
    rw [if_pos (Int.negSucc_lt_zero n)]
    exact String.toList_append

theorem unbroken_write_int (i : Int) : Text.Unbroken (Num.write (.int i)).toList := by
  rw [toList_write_int, Text.unbroken_append]
  refine ⟨?_, Text.unbroken_toString _⟩
  split <;> decide

theorem isBlank_of_isDigit {c : Char} (h : c.isDigit = true) :
    Text.isBlank c = false ∧ c ≠ ']' ∧ c ≠ '\x7d' := by
  have hrange : 48 ≤ c.toNat ∧ c.toNat ≤ 57 := by
    simpa [Char.isDigit, UInt32.le_iff_toNat_le] using h
  refine ⟨?_, by rintro rfl; simp at h, by rintro rfl; simp at h⟩
  simp only [Text.isBlank, Bool.or_eq_false_iff, Bool.and_eq_false_iff, decide_eq_false_iff_not,
    beq_eq_false_iff_ne]
  omega

theorem startsFull_key (k : String) (ps : List Piece) :
    StartsFull (.chars (quote k ++ ": ").toList :: ps) := by
  rw [String.toList_append, toList_quote]
  exact ⟨'\x22', _, ps, rfl, by decide⟩

theorem startsFull_int (i : Int) : StartsFull [.chars (Num.write (.int i)).toList] := by
  rw [toList_write_int]
  split
  · exact ⟨'-', _, [], rfl, by decide⟩
  · obtain ⟨c, s, hs, -⟩ := Text.exists_toString_eq_cons i.natAbs
    have hdigit : c.isDigit = true := Text.isDigit_of_mem_toString (hs ▸ List.mem_cons_self)
    rw [hs]
    exact ⟨c, s, [], rfl, isBlank_of_isDigit hdigit⟩

theorem startsFull_pieces (level : Nat) {v : Json} (hv : v.All IsOrdinary) :
    StartsFull (pieces level v) := by
  match v with
  | arr (v :: rest) => exact ⟨'[', [], _, rfl, by decide⟩
  | obj ((k, v) :: rest) => exact ⟨'\x7b', [], _, rfl, by decide⟩
  | arr [] => exact ⟨'[', [']'], [], by simp [pieces], by decide⟩
  | obj [] => exact ⟨'\x7b', ['\x7d'], [], by simp [pieces], by decide⟩
  | null => exact ⟨'n', "ull".toList, [], by simp [pieces], by decide⟩
  | bool true => exact ⟨'t', "rue".toList, [], by simp [pieces], by decide⟩
  | bool false => exact ⟨'f', "alse".toList, [], by simp [pieces], by decide⟩
  | num (.int i) => exact startsFull_int i
  | num (.float x) => exact hv.elim
  | str s => exact ⟨'\x22', _, [], by rw [pieces, toList_quote], by decide⟩

mutual

/-- A value begins and ends on lines at the same level. -/
theorem laid_pieces (level : Nat) (v : Json) (hv : v.All IsOrdinary) :
    Laid level (pieces level v) level := by
  match v with
  | arr (v :: rest) =>
    obtain ⟨-, hv, hrest⟩ := hv
    have hitem := (laid_pieces (level + 1) v hv).append (laid_itemPieces level rest hrest)
    exact .chars (by decide)
      (((startsFull_pieces _ hv).append _).laid (Nat.le_refl _) (by omega) hitem)
  | obj ((k, v) :: rest) =>
    obtain ⟨-, hv, hrest⟩ := hv
    have hmember := (laid_pieces (level + 1) v hv).append (laid_memberPieces level rest hrest)
    exact .chars (by decide)
      ((startsFull_key k _).laid (Nat.le_refl _) (by omega) (.chars (unbroken_key k) hmember))
  | arr [] => exact .chars (by decide) (.nil level)
  | obj [] => exact .chars (by decide) (.nil level)
  | null => exact .chars (by decide) (.nil level)
  | bool true => exact .chars (by decide) (.nil level)
  | bool false => exact .chars (by decide) (.nil level)
  | num (.int i) => exact .chars (unbroken_write_int i) (.nil level)
  | num (.float x) => exact hv.elim
  | str s => exact .chars (unbroken_quote s) (.nil level)

theorem laid_itemPieces (level : Nat) (items : List Json) (hitems : AllItems IsOrdinary items) :
    Laid (level + 1) (itemPieces level items) level := by
  match items with
  | [] => exact .newline (by omega) (by omega) (by decide) (by decide) (.nil level)
  | v :: rest =>
    obtain ⟨hv, hrest⟩ := hitems
    have hitem := (laid_pieces (level + 1) v hv).append (laid_itemPieces level rest hrest)
    exact .chars (by decide)
      (((startsFull_pieces _ hv).append _).laid (by omega) (by omega) hitem)

theorem laid_memberPieces (level : Nat) (members : List (String × Json))
    (hmembers : AllMembers IsOrdinary members) :
    Laid (level + 1) (memberPieces level members) level := by
  match members with
  | [] => exact .newline (by omega) (by omega) (by decide) (by decide) (.nil level)
  | (k, v) :: rest =>
    obtain ⟨hv, hrest⟩ := hmembers
    have hmember := (laid_pieces (level + 1) v hv).append (laid_memberPieces level rest hrest)
    exact .chars (by decide)
      ((startsFull_key k _).laid (by omega) (by omega) (.chars (unbroken_key k) hmember))

end

end Codemod.Json
