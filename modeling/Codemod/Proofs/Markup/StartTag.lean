import Codemod.Markup.Printer
import Codemod.Markup.Token.Lexer
import Codemod.Proofs.Markup.Reference
import Mathlib.Data.List.Basic

/-!
# Reading start tags again

An element is written with a start tag that holds all its attributes. The lexer reads these back,
with the names in lower case, if no two of them are then the same: of several attributes of one name
it keeps the first.

## Main definitions

* `Attribute.IsReadable`, `Attribute.reread` — attributes that can be read, and what they are then.
* `Element.IsReadable`, `Element.IsSimple` — elements of which all attributes are read.

## Main results

* `takeValue_escapeValue` — the value of an attribute.
* `takeAttributes_render` — all attributes of a tag.
* `Lexer.next_startTagText` — the token of a start tag.
-/

namespace Codemod.Markup

/-! ## Values -/

theorem takeValue_skip (ends : Char → Bool) (front s : List Char) :
    takeValue ends front.length (front ++ s) = takeValue ends 0 s := by
  induction front with
  | nil => rfl
  | cons c front ih => rw [List.length_cons, List.cons_append, takeValue, ih]

/-- A character that is written is read as it was. -/
theorem takeValue_escapeValueChar {c : Char} (hc : c ≠ '\x00') (s : List Char) :
    takeValue (· == '\x22') 0 (escapeValueChar c ++ s) =
      (takeValue (· == '\x22') 0 s).map fun (v, rest) => (c :: v, rest) := by
  by_cases hescape : escapeValueChar c = [c]
  · have hamp : c ≠ '&' := by
      rintro rfl
      exact absurd hescape (by decide)
    have hquote : c ≠ '\x22' := by
      rintro rfl
      exact absurd hescape (by decide)
    rw [hescape, List.singleton_append, takeValue, if_neg (by simpa using hquote), if_neg hamp,
      mend, if_neg hc]
  · obtain ⟨text, hwritten, hread⟩ := Reference.read_of_escaped hescape true s
    rw [hwritten, List.cons_append, takeValue, if_neg (by decide), if_pos rfl, hread]
    dsimp only
    rw [takeValue_skip]
    rfl

/-- Between quotes, a value is read as it was before it was written. -/
theorem takeValue_escapeValue {value : String} (h : '\x00' ∉ value.toList) (rest : List Char) :
    takeValue (· == '\x22') 0 ((escapeValue value).toList ++ '\x22' :: rest) =
      some (value.toList, '\x22' :: rest) := by
  rw [escapeValue, String.toList_ofList]
  generalize value.toList = v at h
  induction v with
  | nil => rfl
  | cons c v ih =>
    rw [List.mem_cons, not_or] at h
    rw [List.flatMap_cons, List.append_assoc, takeValue_escapeValueChar (Ne.symm h.1), ih h.2]
    rfl

/-! ## Attributes -/

namespace Attribute

/-- The name can be told from what stands around it, and the value has no NUL characters. -/
structure IsReadable (a : Attribute) : Prop where
  ne_empty : a.writtenName ≠ ""
  name : ∀ c ∈ a.writtenName.toList, endsAttributeName c = false ∧ c ≠ '\x00'
  value : '\x00' ∉ a.value.toList

/-- The attribute as it is in a tag that is read. -/
def reread (a : Attribute) : Attribute :=
  { name := String.ofList (lower a.writtenName.toList), value := a.value }

end Attribute

theorem map_mend {s : List Char} (h : ∀ c ∈ s, c ≠ '\x00') : s.map mend = s := by
  have hmend : ∀ c ∈ s, mend c = c := fun c hc => if_neg (h c hc)
  rw [List.map_congr_left hmend, List.map_id']

theorem dropWhile_isSpace_cons {c : Char} (h : isSpace c = false) (s : List Char) :
    (c :: s).dropWhile isSpace = c :: s :=
  List.dropWhile_cons_of_neg (by simp [h])

/-- A value that is written in quotes is read. -/
theorem takeValueAfterEquals_quoted {value : String} (h : '\x00' ∉ value.toList)
    (rest : List Char) :
    takeValueAfterEquals ('\x22' :: ((escapeValue value).toList ++ '\x22' :: rest)) =
      some (value.toList, rest) := by
  rw [takeValueAfterEquals, dropWhile_isSpace_cons (by decide)]
  simp [takeValue_escapeValue h rest]

section Name

variable {name : List Char} (h : ∀ c ∈ name, endsAttributeName c = false) (s : List Char)

include h

theorem takeWhile_attributeName : (name ++ '=' :: s).takeWhile (!endsAttributeName ·) = name := by
  rw [List.takeWhile_append_of_pos fun c hc => by simp [h c hc],
    List.takeWhile_cons_of_neg (by decide), List.append_nil]

theorem dropWhile_attributeName :
    (name ++ '=' :: s).dropWhile (!endsAttributeName ·) = '=' :: s := by
  rw [List.dropWhile_append_of_pos fun c hc => by simp [h c hc],
    List.dropWhile_cons_of_neg (by decide)]

end Name

/-- A name is read up to the sign after it, and then a value is. -/
theorem takeAttributes_name {c : Char} {name : List Char}
    (h : ∀ d ∈ c :: name, endsAttributeName d = false ∧ d ≠ '\x00') {tail value s : List Char}
    (hvalue : takeValueAfterEquals tail = some (value, s)) (fuel : Nat) (l : TagAttributes) :
    takeAttributes (fuel + 1) l (' ' :: c :: (name ++ '=' :: tail)) =
      takeAttributes fuel (addAttribute l (c :: name) value) s := by
  obtain ⟨⟨hc, hnul⟩, hrest⟩ := List.forall_mem_cons.mp h
  obtain ⟨⟨⟨hspace, hslash⟩, hend⟩, -⟩ :
      ((isSpace c = false ∧ c ≠ '/') ∧ c ≠ '>') ∧ c ≠ '=' := by
    simpa [endsAttributeName, endsTagName] using hc
  have hblank : (' ' :: c :: (name ++ '=' :: tail)).dropWhile isSpace =
      c :: (name ++ '=' :: tail) := by
    rw [List.dropWhile_cons_of_pos (by decide), dropWhile_isSpace_cons hspace]
  have hequals : ('=' :: tail).dropWhile isSpace = '=' :: tail :=
    dropWhile_isSpace_cons (by decide) tail
  have hmend : mend c :: name.map mend = c :: name :=
    congr (congrArg List.cons (if_neg hnul)) (map_mend fun d hd => (hrest d hd).2)
  rw [takeAttributes, hblank]
  split
  next heq => cases heq
  next heq => exact absurd (List.cons.inj heq).1 hend
  next heq => exact absurd (List.cons.inj heq).1 hslash
  next heq => exact absurd (List.cons.inj heq).1 hslash
  next heq =>
    cases heq
    have hname : ∀ d ∈ name, endsAttributeName d = false := fun d hd => (hrest d hd).1
    rw [takeWhile_attributeName hname, dropWhile_attributeName hname, hmend]
    simp only [hequals, hvalue]

/-- An attribute that is written is read in one step. -/
theorem takeAttributes_cons {a : Attribute} (ha : a.IsReadable) (fuel : Nat) (l : TagAttributes)
    (s : List Char) :
    takeAttributes (fuel + 1) l (a.render.toList ++ s) =
      takeAttributes fuel (addAttribute l a.writtenName.toList a.value.toList) s := by
  obtain ⟨c, name, hname⟩ :=
    List.exists_cons_of_ne_nil (mt String.toList_eq_nil_iff.mp ha.ne_empty)
  have htext : a.render.toList ++ s =
      ' ' :: c :: (name ++ '=' :: '\x22' :: ((escapeValue a.value).toList ++ '\x22' :: s)) := by
    simp [Attribute.render, hname]
  have hchars := ha.name
  rw [hname] at hchars
  rw [htext, hname]
  exact takeAttributes_name hchars (takeValueAfterEquals_quoted ha.value s) fuel l

theorem list_addAttribute {l : TagAttributes} {a : Attribute}
    (hnew : a.reread.name ∉ l.list.map (·.name)) :
    (addAttribute l a.writtenName.toList a.value.toList).list = l.list ++ [a.reread] := by
  have hnone : ¬ l.list.any (·.name = String.ofList (lower a.writtenName.toList)) = true := by
    intro hany
    obtain ⟨b, hb, hname⟩ := List.any_eq_true.mp hany
    exact hnew (List.mem_map.mpr ⟨b, hb, of_decide_eq_true hname⟩)
  have hreread : a.reread =
      { name := String.ofList (lower a.writtenName.toList)
        value := String.ofList a.value.toList } := by
    rw [Attribute.reread, String.ofList_toList]
  rw [addAttribute, dif_neg hnone, hreread]

/-- All attributes of a tag are read, if their names are distinct in lower case. -/
theorem takeAttributes_render {attributes : List Attribute} (h : ∀ a ∈ attributes, a.IsReadable)
    (rest : List Char) {fuel : Nat} (hfuel : attributes.length < fuel) (l : TagAttributes)
    (hdistinct : (l.list.map (·.name) ++ attributes.map (·.reread.name)).Nodup) :
    ∃ read : TagAttributes,
      takeAttributes fuel l
          ((String.join (attributes.map Attribute.render)).toList ++ '>' :: rest) =
          some ((read, false), rest) ∧
        read.list = l.list ++ attributes.map Attribute.reread := by
  induction attributes generalizing fuel l with
  | nil =>
    obtain ⟨fuel, rfl⟩ := Nat.exists_eq_succ_of_ne_zero (Nat.ne_zero_of_lt hfuel)
    refine ⟨l, ?_, by simp⟩
    rw [List.map_nil, String.join_nil, String.toList_empty, List.nil_append, takeAttributes]
    rw [dropWhile_isSpace_cons (by decide)]
    rfl
  | cons a attributes ih =>
    obtain ⟨fuel, rfl⟩ := Nat.exists_eq_succ_of_ne_zero (Nat.ne_zero_of_lt hfuel)
    rw [List.forall_mem_cons] at h
    rw [List.length_cons, Nat.succ_lt_succ_iff] at hfuel
    have hnew : a.reread.name ∉ l.list.map (·.name) := fun hmem =>
      (List.nodup_append.mp hdistinct).2.2 _ hmem _ List.mem_cons_self rfl
    have hlist := list_addAttribute hnew
    obtain ⟨read, hread, hall⟩ := ih h.2 hfuel
      (addAttribute l a.writtenName.toList a.value.toList) (by
        rw [hlist]
        simpa using hdistinct)
    refine ⟨read, ?_, ?_⟩
    · rw [List.map_cons, String.join_cons, String.toList_append, List.append_assoc,
        takeAttributes_cons h.1, hread]
    · rw [hall, hlist]
      simp

/-! ## Tags -/

/-- The tag and the attributes can be told from what stands around them, and no two names of
attributes are the same in lower case. -/
structure Element.IsReadable (e : Element) : Prop where
  letter : ∃ c tag, e.tag.toList = c :: tag ∧ isLetter c = true
  tag : ∀ c ∈ e.tag.toList, endsTagName c = false ∧ c ≠ '\x00'
  attributes : ∀ a ∈ e.attributes, a.IsReadable
  distinct : (e.attributes.map (·.reread.name)).Nodup

theorem takeTagName_append {tag : List Char}
    (htag : ∀ c ∈ tag, endsTagName c = false ∧ c ≠ '\x00') {c : Char} (hc : endsTagName c = true)
    (rest : List Char) : takeTagName (tag ++ c :: rest) = (lower tag, c :: rest) := by
  have hinside : ∀ d ∈ tag, (!endsTagName d) = true := fun d hd => by simp [(htag d hd).1]
  rw [takeTagName, List.takeWhile_append_of_pos hinside, List.takeWhile_cons_of_neg (by simp [hc]),
    List.append_nil, List.dropWhile_append_of_pos hinside,
    List.dropWhile_cons_of_neg (by simp [hc]), map_mend fun d hd => (htag d hd).2]

theorem length_le_length_join (attributes : List Attribute) :
    attributes.length ≤ (String.join (attributes.map Attribute.render)).toList.length := by
  induction attributes with
  | nil => simp
  | cons a attributes ih =>
    rw [List.map_cons, String.join_cons, String.toList_append, List.length_append,
      List.length_cons]
    have hone : 1 ≤ a.render.toList.length := by
      simp [Attribute.render]
    omega

/-- What follows the tag's name begins with a blank or the end of the tag. -/
theorem exists_join_cons (attributes : List Attribute) (rest : List Char) :
    ∃ c tail, endsTagName c = true ∧
      (String.join (attributes.map Attribute.render)).toList ++ '>' :: rest = c :: tail := by
  cases attributes with
  | nil => exact ⟨'>', rest, by decide, by simp⟩
  | cons a attributes =>
    obtain ⟨text, htext⟩ : ∃ text, a.render.toList = ' ' :: text :=
      ⟨(a.writtenName ++ "=\"" ++ escapeValue a.value ++ "\"").toList, by simp [Attribute.render]⟩
    refine ⟨' ', text ++ ((String.join (attributes.map Attribute.render)).toList ++ '>' :: rest),
      by decide, ?_⟩
    rw [List.map_cons, String.join_cons, String.toList_append, htext, List.append_assoc,
      List.cons_append]

/-- A start tag that is written is read as a tag with all attributes of the element. -/
theorem takeTag_startTagText {e : Element} (h : e.IsReadable) (space : Space) (rest : List Char) :
    ∃ t : Tag, takeTag ((startTagText ⟨space, e.tag⟩ e.attributes).toList.drop 1 ++ rest) =
        some (t, rest) ∧
      t.name = String.ofList (lower e.tag.toList) ∧
      t.attributes.list = e.attributes.map Attribute.reread := by
  have htext : (startTagText ⟨space, e.tag⟩ e.attributes).toList.drop 1 ++ rest =
      e.tag.toList ++
        ((String.join (e.attributes.map Attribute.render)).toList ++ '>' :: rest) := by
    simp [startTagText]
  obtain ⟨c, tail, hc, htail⟩ := exists_join_cons e.attributes rest
  have hname := takeTagName_append h.tag hc tail
  have hfuel : e.attributes.length < (c :: tail).length + 1 := by
    have hlength := congrArg List.length htail
    have hle := length_le_length_join e.attributes
    simp only [List.length_append, List.length_cons] at hlength ⊢
    omega
  obtain ⟨read, hread, hlist⟩ := takeAttributes_render h.attributes rest hfuel ∅ h.distinct
  rw [htail] at hread
  refine ⟨{ name := String.ofList (lower e.tag.toList), attributes := read }, ?_, rfl, hlist⟩
  rw [htext, htail, takeTag, hname]
  dsimp only
  rw [hread]
  rfl

/-- The token of a start tag that is written. -/
theorem Lexer.next_startTagText {l : Lexer} (hcontent : l.content = .data) {e : Element}
    (h : e.IsReadable) (space : Space) {rest : List Char}
    (hrest : l.rest = (startTagText ⟨space, e.tag⟩ e.attributes).toList ++ rest)
    (sections : Bool) :
    ∃ t : Tag, l.next sections = ([.startTag t], { l with lastStart := some t.name, rest }) ∧
      t.name = String.ofList (lower e.tag.toList) ∧
      t.attributes.list = e.attributes.map Attribute.reread := by
  obtain ⟨t, htake, hname, hlist⟩ := takeTag_startTagText h space rest
  obtain ⟨c, tag, htag, hletter⟩ := h.letter
  refine ⟨t, ?_, hname, hlist⟩
  have hopen : (startTagText ⟨space, e.tag⟩ e.attributes).toList =
      '<' :: (startTagText ⟨space, e.tag⟩ e.attributes).toList.drop 1 := by
    simp [startTagText]
  obtain ⟨tail, htail⟩ : ∃ tail,
      (startTagText ⟨space, e.tag⟩ e.attributes).toList.drop 1 ++ rest = c :: tail :=
    ⟨_, by simp [startTagText, htag]; rfl⟩
  rw [hopen, List.cons_append, htail] at hrest
  rw [htail] at htake
  have hother : c ≠ '!' ∧ c ≠ '?' ∧ c ≠ '/' := by
    refine ⟨?_, ?_, ?_⟩ <;> (rintro rfl; revert hletter; decide)
  have hnext : l.next sections = l.markup sections (c :: tail) := by
    rw [Lexer.next, hcontent, hrest]
    rfl
  rw [hnext, Lexer.markup.eq_def]
  split
  next heq => exact absurd (List.cons.inj heq).1 hother.1
  next heq => exact absurd (List.cons.inj heq).1 hother.2.1
  next heq => exact absurd (List.cons.inj heq).1 hother.2.2
  next heq =>
    cases heq
    rw [if_pos hletter, htake]
  next heq => cases heq

/-! ## Simple tags -/

/-- The tag and the attributes can be told from what stands around them, and attributes have plain
names in lower case. -/
structure Element.IsSimple (e : Element) : Prop where
  letter : ∃ c tag, e.tag.toList = c :: tag ∧ isLetter c = true
  tag : ∀ c ∈ e.tag.toList, endsTagName c = false ∧ c ≠ '\x00'
  attributes : ∀ a ∈ e.attributes, a.IsReadable
  plain : ∀ a ∈ e.attributes, a.space = .plain
  lowered : ∀ a ∈ e.attributes, lower a.name.toList = a.name.toList

theorem Attribute.reread_eq {a : Attribute} (hplain : a.space = .plain)
    (hlower : lower a.name.toList = a.name.toList) : a.reread = a := by
  obtain ⟨space, name, value⟩ := a
  cases hplain
  simp only [reread, writtenName, hlower, String.ofList_toList]

theorem Element.IsSimple.map_reread {e : Element} (h : e.IsSimple) :
    e.attributes.map Attribute.reread = e.attributes := by
  have hsame : ∀ a ∈ e.attributes, a.reread = a := fun a ha =>
    Attribute.reread_eq (h.plain a ha) (h.lowered a ha)
  rw [List.map_congr_left hsame, List.map_id']

/-- Attributes of simple names are read as they are, if no two have one name. -/
theorem Element.IsSimple.isReadable {e : Element} (h : e.IsSimple)
    (hdistinct : (e.attributes.map Attribute.key).Nodup) : e.IsReadable := by
  refine ⟨h.letter, h.tag, h.attributes, ?_⟩
  rw [List.Nodup, List.pairwise_map] at hdistinct ⊢
  refine hdistinct.imp_of_mem fun {a b} ha hb hne hname => hne ?_
  rw [Attribute.reread_eq (h.plain a ha) (h.lowered a ha),
    Attribute.reread_eq (h.plain b hb) (h.lowered b hb)] at hname
  rw [Attribute.key, Attribute.key, h.plain a ha, h.plain b hb, hname]

end Codemod.Markup
