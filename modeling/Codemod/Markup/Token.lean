import Codemod.Markup.Tree

/-!
# Markup tokens

A source is cut into tags, comments, document types and runs of text. A tag's name and the names
of its attributes are in lower case, and no two attributes have one name.
-/

namespace Codemod.Markup

structure Doctype where
  name : Option (List Char) := none
  publicId : Option (List Char) := none
  systemId : Option (List Char) := none
  /-- The declaration is malformed. -/
  broken : Bool := false
  deriving Inhabited

/-- The blanks of markup. -/
def isSpace (c : Char) : Bool :=
  c == ' ' || c == '\n' || c == '\t' || c == '\x0c' || c == '\r'

/-- How the characters of the source are to be taken. -/
inductive Content where
  /-- Markup. -/
  | data
  /-- Text with character references, up to the end tag. -/
  | rcdata
  /-- Plain text up to the end tag. -/
  | rawtext
  /-- Plain text up to the end tag, with comments that can hide one. -/
  | script
  /-- Plain text up to the end of the source. -/
  | plaintext
  deriving DecidableEq, Inhabited

def lowerChar (c : Char) : Char :=
  if 'A' ≤ c && c ≤ 'Z' then Char.ofNat (c.toNat + 32) else c

def lower (s : List Char) : List Char :=
  s.map lowerChar

theorem lowerChar_lowerChar (c : Char) : lowerChar (lowerChar c) = lowerChar c := by
  by_cases h : ('A' ≤ c && c ≤ 'Z') = true
  · have hrange : 65 ≤ c.toNat ∧ c.toNat < 91 := by
      simp only [Bool.and_eq_true, decide_eq_true_eq, Char.le_def, UInt32.le_iff_toNat_le] at h
      exact ⟨h.1, Nat.lt_succ_of_le h.2⟩
    have hall : ∀ n < 91, 65 ≤ n →
        lowerChar (lowerChar (Char.ofNat n)) = lowerChar (Char.ofNat n) := by
      decide
    have hc := hall c.toNat hrange.2 hrange.1
    rwa [Char.ofNat_toNat] at hc
  · rw [lowerChar, lowerChar, if_neg h, if_neg h]

theorem lower_lower (s : List Char) : lower (lower s) = lower s := by
  simp [lower, lowerChar_lowerChar]

/-! ## Tags -/

/-- The attributes of a tag. Their names are in lower case. -/
structure TagAttributes extends Attributes where
  plain : ∀ a ∈ list, a.space = .plain
  lowered : ∀ a ∈ list, lower a.name.toList = a.name.toList
  deriving DecidableEq

instance : EmptyCollection TagAttributes :=
  ⟨{ toAttributes := ∅, plain := List.forall_mem_nil _, lowered := List.forall_mem_nil _ }⟩

instance : Inhabited TagAttributes :=
  ⟨∅⟩

structure Tag where
  name : String
  attributes : TagAttributes := ∅
  selfClosing : Bool := false
  deriving DecidableEq, Inhabited

inductive Token where
  | doctype (d : Doctype)
  | startTag (t : Tag)
  | endTag (name : String)
  | comment (text : String)
  /-- A run of characters, all blank or none. -/
  | text (s : String) (blank : Bool)
  | nul
  | eof
  deriving Inhabited

/-! ## Characters -/

def isLetter (c : Char) : Bool :=
  ('a' ≤ c && c ≤ 'z') || ('A' ≤ c && c ≤ 'Z')

def isDigit (c : Char) : Bool :=
  '0' ≤ c && c ≤ '9'

/-- What stands in for a NUL character. -/
def mend (c : Char) : Char :=
  if c = '\x00' then '\uFFFD' else c

end Codemod.Markup
