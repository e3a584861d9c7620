import Codemod.Text.Printable

/-!
# Quoted text

A text between double quotes, as messages show it: quotes, backslashes and common control
characters are escaped, any other character that is not printable is written by its code point.
-/

namespace Codemod.Text

/-- The digits of `n` in base sixteen, lower case. -/
def hex (n : Nat) : List Char :=
  Nat.toDigits 16 n

def quotedChar (c : Char) : List Char :=
  if c = '\x22' then ['\\', '\x22']
  else if c = '\\' then ['\\', '\\']
  else if c = '\n' then ['\\', 'n']
  else if c = '\r' then ['\\', 'r']
  else if c = '\t' then ['\\', 't']
  else if c = '\x00' then ['\\', '0']
  else if isPrintable c then [c]
  else ['\\', 'u', '\x7b'] ++ hex c.toNat ++ ['\x7d']

/-- `s` in double quotes. -/
def quoted (s : String) : String :=
  String.ofList ('\x22' :: (s.toList.flatMap quotedChar ++ ['\x22']))

end Codemod.Text
