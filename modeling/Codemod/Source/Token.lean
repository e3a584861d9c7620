/-!
# Tokens of source code

Source code is cut into words, numbers, literals, brackets and signs. The parts of a template and
of an element that is written like markup are tokens too: its tags are brackets, and the text
between them is one token.
-/

namespace Codemod.Source

inductive Token.Kind where
  | word
  | number
  | string
  | regex
  /-- Text of a template or between tags. -/
  | chars
  | opening
  | closing
  | sign
  | comment
  /-- What is no token: an unfinished literal, a character with no meaning, or a bracket that
  closes nothing. -/
  | stray
  deriving DecidableEq, Inhabited

structure Token where
  kind : Token.Kind
  text : String
  /-- Where the token begins and ends, in bytes. -/
  start : Nat
  stop : Nat
  /-- Whether a line break stands between the token before and this one. -/
  afterBreak : Bool
  deriving DecidableEq, Inhabited

namespace Token

def isWord (t : Token) (w : String) : Bool :=
  t.kind == .word && t.text == w

def isSign (t : Token) (s : String) : Bool :=
  t.kind == .sign && t.text == s

def opens (t : Token) (s : String) : Bool :=
  t.kind == .opening && t.text == s

def closes (t : Token) (s : String) : Bool :=
  t.kind == .closing && t.text == s

end Token

/-! ## Characters -/

/-- Characters with no meaning of their own, other than line breaks. -/
def isBlank (c : Char) : Bool :=
  let n := c.toNat
  n == 0x20 || (0x9 ≤ n && n ≤ 0xd) || n == 0xa0 || n == 0x1680 || (0x2000 ≤ n && n ≤ 0x200b) ||
    n == 0x2028 || n == 0x2029 || n == 0x202f || n == 0x205f || n == 0x2060 || n == 0x3000 ||
    n == 0xfeff

def isBreak (c : Char) : Bool :=
  c == '\n' || c == '\r' || c == '\u2028' || c == '\u2029'

def isDigit (c : Char) : Bool :=
  '0' ≤ c && c ≤ '9'

/-- Characters that stand for themselves or begin a longer sign. -/
def signChars : List Char :=
  ":;\x60\x22\x27@#.,|^&<=>+-*/\\%?!~()[]\x7b\x7d".toList

/-- Whatever is neither a blank nor a sign can stand in a word. -/
def isWordChar (c : Char) : Bool :=
  !(c.toNat < 0x20) && !isBlank c && !signChars.contains c

def isWordStart (c : Char) : Bool :=
  isWordChar c && !isDigit c

def byteSize (s : List Char) : Nat :=
  s.foldl (fun n c => n + c.utf8Size) 0

end Codemod.Source
