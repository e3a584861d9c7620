import Codemod.Text.Bytes
import Mathlib.Data.List.Lex

/-!
# Texts and their bytes

Texts are in order by their characters, file names by their bytes. UTF-8 keeps the order of
characters: the encoding of a smaller one is smaller at the first byte where the two differ. Bytes
that are no text are shown with characters that are not ASCII, so that no such name is shown as a
segment with a meaning of its own.

## Main results

* `Bytes.ofText_lt` — the bytes of texts are in the order of the texts.
* `Bytes.toText?_ofText` — a text is read back from its bytes.
* `Bytes.not_ascii_of_toText?_eq_none`, `Bytes.slash_notMem_toLossyText` — what is shown for bytes
  that are no text.
-/

namespace Codemod.Bytes

@[simp] theorem ofText_append (s t : String) : ofText (s ++ t) = ofText s ++ ofText t := by
  simp [ofText]

theorem ofText_ofList (s : List Char) :
    ofText (String.ofList s) = s.flatMap String.utf8EncodeChar := by
  simp [ofText, List.utf8Encode]

/-- The encodings of two characters are in the order of these, whatever follows. -/
theorem utf8EncodeChar_append_lt {c d : Char} (h : c < d) (s t : Bytes) :
    String.utf8EncodeChar c ++ s < String.utf8EncodeChar d ++ t := by
  have hlt : c.val.toNat < d.val.toNat := h
  have hmax : d.val.toNat < 2097152 := by
    have := d.valid
    simp only [UInt32.isValidChar, Nat.isValidChar] at this
    omega
  -- the first byte has three digits of a character at most, each later byte has six
  have hdigits : ∀ n < 2097152,
      n = n / 262144 % 8 * 262144 + n / 4096 % 64 * 4096 + n / 64 % 64 * 64 + n % 64 := by
    omega
  have hc := hdigits _ (hlt.trans hmax)
  have hd := hdigits _ hmax
  have hfirst : ∀ n, (n % 8 + 240) % 256 = n % 8 + 240 := by omega
  have hlater : ∀ n, (n % 64 + 128) % 256 = n % 64 + 128 := by omega
  rw [String.utf8EncodeChar, String.utf8EncodeChar]
  generalize c.val.toNat = m at *
  generalize d.val.toNat = n at *
  split_ifs <;>
    simp only [List.cons_append, List.nil_append, List.cons_lt_cons_iff, UInt8.lt_iff_toNat_lt,
      ← UInt8.toNat_inj, UInt8.toNat_ofNat', hfirst, hlater, Nat.reducePow]
  all_goals omega

theorem flatMap_utf8EncodeChar_lt {s t : List Char} (h : s < t) :
    s.flatMap String.utf8EncodeChar < t.flatMap String.utf8EncodeChar := by
  induction s generalizing t with
  | nil =>
    cases t with
    | nil => exact absurd h (List.lt_irrefl _)
    | cons d t =>
      obtain ⟨b, bs, hd⟩ := List.exists_cons_of_ne_nil (String.utf8EncodeChar_ne_nil (c := d))
      rw [List.flatMap_nil, List.flatMap_cons, hd]
      exact List.nil_lt_cons _ _
  | cons c s ih =>
    cases t with
    | nil => exact absurd h (List.not_lt_nil _)
    | cons d t =>
      rw [List.flatMap_cons, List.flatMap_cons]
      obtain hlt | ⟨rfl, hlt⟩ := List.cons_lt_cons_iff.mp h
      · exact utf8EncodeChar_append_lt hlt _ _
      · exact List.append_left_lt (ih hlt)

/-- The bytes of two texts are in the order of these. -/
theorem ofText_lt {s t : String} (h : s < t) : ofText s < ofText t := by
  rw [← String.ofList_toList (s := s), ← String.ofList_toList (s := t), ofText_ofList,
    ofText_ofList]
  exact flatMap_utf8EncodeChar_lt (String.lt_iff.mp h)

/-! ## Bytes that are no text -/

/-- A character that is no zero is that of its own number only. -/
theorem eq_toNat_of_ofNat {n : Nat} {c : Char} (h : Char.ofNat n = c) (hc : c ≠ '\x00') :
    n = c.toNat := by
  by_cases hn : n.isValidChar
  · have hchar : Char.ofNat n = Char.ofNatAux n hn := dif_pos hn
    rw [← h, hchar]
    rfl
  · have hchar : Char.ofNat n = '\x00' := dif_neg hn
    exact absurd (h.symm.trans hchar) hc

/-- A number that is not small, or not very small and goes on, is not that of an ASCII character. -/
theorem le_foldl_digits {n : Nat} {l : Bytes} (h : 0x80 ≤ n ∨ 2 ≤ n ∧ l ≠ []) :
    0x80 ≤ l.foldl (fun n t => n * 64 + (t.toNat - 0x80)) n := by
  induction l generalizing n with
  | nil => exact h.resolve_right fun hn => hn.2 rfl
  | cons t l ih =>
    rw [List.foldl_cons]
    exact ih (.inl (by omega))

/-- The number that the first two bytes of a longer sequence begin. -/
theorem le_of_follow? {b s lo hi : UInt8} {more : Nat} (h : follow? b = some (lo, hi, more))
    (hs : lo ≤ s) {n : Nat}
    (hn : n = (if more = 0 then b.toNat - 0xc0 else if more = 1 then b.toNat - 0xe0
      else b.toNat - 0xf0) * 64 + (s.toNat - 0x80)) :
    0x80 ≤ n ∨ 2 ≤ n ∧ more ≠ 0 := by
  simp only [follow?, between, Bool.and_eq_true, decide_eq_true_eq, beq_iff_eq,
    UInt8.le_iff_toNat_le, ← UInt8.toNat_inj, UInt8.reduceToNat] at h hs
  split_ifs at h <;> cases h <;> simp only [UInt8.reduceToNat] at hs <;> simp at hn ⊢ <;> omega

/-- Only an ASCII byte is read as an ASCII character. -/
theorem eq_of_firstPiece {b : UInt8} {rest : Bytes} {c : Char}
    (h : (firstPiece b rest).2.getD '\uFFFD' = c) (hzero : c ≠ '\x00') (hc : c.toNat < 0x80) :
    b.toNat = c.toNat ∧ (firstPiece b rest).1 = 1 := by
  have hbroken : c ≠ '\uFFFD' := by
    rintro rfl
    exact absurd hc (by decide)
  unfold firstPiece at h ⊢
  split at h
  next hb =>
    rw [if_pos hb]
    exact ⟨eq_toNat_of_ofNat h hzero, rfl⟩
  next hb =>
    split at h
    next lo hi more s rest hfollow =>
      split at h
      next hs =>
        by_cases hlength : (continuation more rest).length = more
        · simp only [hlength, if_true] at h
          have hnumber := eq_toNat_of_ofNat h hzero
          simp only [between, Bool.and_eq_true, decide_eq_true_eq] at hs
          have hgoes : more ≠ 0 → continuation more rest ≠ [] := fun hmore =>
            List.ne_nil_of_length_pos (by omega)
          have hlarge := le_foldl_digits
            ((le_of_follow? hfollow hs.1 rfl).imp_right (And.imp_right hgoes))
          rw [List.foldl_cons] at hnumber
          omega
        · simp only [hlength, if_false] at h
          exact absurd h.symm hbroken
      next => exact absurd h.symm hbroken
    next => exact absurd h.symm hbroken

/-- An ASCII character of what is shown for bytes is one of the bytes. -/
theorem mem_of_mem_lossyFrom {skip : Nat} {b : Bytes} {c : Char} (h : c ∈ lossyFrom skip b)
    (hzero : c ≠ '\x00') (hc : c.toNat < 0x80) : ∃ x ∈ b, x.toNat = c.toNat := by
  fun_induction lossyFrom skip b with
  | case1 => simp at h
  | case2 skip x rest ih =>
    obtain ⟨y, hy, hyc⟩ := ih h
    exact ⟨y, List.mem_cons_of_mem x hy, hyc⟩
  | case3 x rest used c' hpiece ih =>
    obtain rfl | h := List.mem_cons.mp h
    · exact ⟨x, List.mem_cons_self, (eq_of_firstPiece (by rw [hpiece]) hzero hc).1⟩
    · obtain ⟨y, hy, hyc⟩ := ih h
      exact ⟨y, List.mem_cons_of_mem x hy, hyc⟩

/-- Bytes that are shown in ASCII are those of what is shown. -/
theorem map_toNat_of_lossyFrom {b : Bytes}
    (h : ∀ c ∈ lossyFrom 0 b, c ≠ '\x00' ∧ c.toNat < 0x80) :
    b.map UInt8.toNat = (lossyFrom 0 b).map Char.toNat := by
  induction b with
  | nil => rfl
  | cons x rest ih =>
    rw [lossyFrom, List.forall_mem_cons] at h
    obtain ⟨⟨hzero, hc⟩, hrest⟩ := h
    obtain ⟨hx, hused⟩ := eq_of_firstPiece rfl hzero hc
    rw [hused] at hrest
    rw [lossyFrom, List.map_cons, List.map_cons, hused, ih hrest, hx]

@[simp] theorem toText?_ofText (s : String) : (ofText s).toText? = some s := by
  have hvalid : ByteArray.IsValidUTF8 ⟨(ofText s).toArray⟩ := s.isValidUTF8
  rw [toText?, String.fromUTF8?, dif_pos hvalid]
  rfl

theorem map_toNat_ofText {s : List Char} (h : ∀ c ∈ s, c.toNat < 0x80) :
    (ofText (String.ofList s)).map UInt8.toNat = s.map Char.toNat := by
  rw [ofText_ofList]
  induction s with
  | nil => rfl
  | cons c s ih =>
    rw [List.forall_mem_cons] at h
    have hc : c.val.toNat < 128 := h.1
    have hencode : String.utf8EncodeChar c = [UInt8.ofNat c.val.toNat] :=
      if_pos (Nat.le_of_lt_succ hc)
    have hbyte : (UInt8.ofNat c.val.toNat).toNat = c.toNat :=
      UInt8.toNat_ofNat_of_lt' (Nat.lt_of_lt_of_le hc (by decide))
    rw [List.flatMap_cons, List.map_append, ih h.2, hencode, List.map_cons, hbyte]
    rfl

/-- Bytes that are no text are not shown in ASCII. -/
theorem not_ascii_of_toText?_eq_none {b : Bytes} (h : b.toText? = none) :
    ¬ ∀ c ∈ b.toLossyText.toList, c ≠ '\x00' ∧ c.toNat < 0x80 := by
  intro hascii
  rw [toLossyText, String.toList_ofList] at hascii
  have hbytes : b = ofText b.toLossyText := by
    refine List.map_injective_iff.mpr (fun _ _ => UInt8.toNat_inj.mp) ?_
    rw [toLossyText, map_toNat_ofText fun c hc => (hascii c hc).2, map_toNat_of_lossyFrom hascii]
  rw [hbytes, toText?_ofText] at h
  cases h

/-- A slash that is shown for bytes is one of them. -/
theorem slash_notMem_toLossyText {b : Bytes} (h : 0x2f ∉ b) : '/' ∉ b.toLossyText.toList := by
  intro hmem
  rw [toLossyText, String.toList_ofList] at hmem
  obtain ⟨x, hx, hslash⟩ := mem_of_mem_lossyFrom hmem (by decide) (by decide)
  obtain rfl : x = 0x2f := UInt8.toNat_inj.mp hslash
  exact h hx

end Codemod.Bytes
