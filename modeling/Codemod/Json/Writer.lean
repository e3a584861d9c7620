import Codemod.Json.Value

/-!
# Writing JSON

Two forms: compact, with no blank anywhere, and pretty, with one item or member a line, indented
by a given unit.
-/

namespace Codemod.Json

/-- Doubles stand positionally from `1e-5` up to `1e16`, with at least one digit after the point. -/
def doubles : NumberLayout :=
  { least := -5, bound := 16, plus := "+" }

def Num.write : Num → String
  | .int i => toString i
  | .float x => doubles.write x

def hexDigit (n : Nat) : Char :=
  Nat.digitChar (n % 16)

/-- Quotes, backslashes and control characters are escaped, everything else stands for itself. -/
def escapeChar (c : Char) : List Char :=
  if c = '\x22' then ['\\', '\x22']
  else if c = '\\' then ['\\', '\\']
  else if c = '\x08' then ['\\', 'b']
  else if c = '\x0c' then ['\\', 'f']
  else if c = '\n' then ['\\', 'n']
  else if c = '\r' then ['\\', 'r']
  else if c = '\t' then ['\\', 't']
  else if c.toNat < 0x20 then
    ['\\', 'u', '0', '0', hexDigit (c.toNat / 16), hexDigit c.toNat]
  else [c]

def quote (s : String) : String :=
  String.ofList ('\x22' :: (s.toList.flatMap escapeChar ++ ['\x22']))

mutual

/-- The compact form. -/
def compact : Json → String
  | null => "null"
  | bool true => "true"
  | bool false => "false"
  | num n => n.write
  | str s => quote s
  | arr items => "[" ++ compactItems items ++ "]"
  | obj members => "\x7b" ++ compactMembers members ++ "\x7d"

def compactItems : List Json → String
  | [] => ""
  | [v] => v.compact
  | v :: rest => v.compact ++ "," ++ compactItems rest

def compactMembers : List (String × Json) → String
  | [] => ""
  | [(k, v)] => quote k ++ ":" ++ v.compact
  | (k, v) :: rest => quote k ++ ":" ++ v.compact ++ "," ++ compactMembers rest

end

/-- A line break and the indentation of `level`. -/
def newline (unit : String) : (level : Nat) → String
  | 0 => "\n"
  | n + 1 => newline unit n ++ unit

mutual

/-- The pretty form at a nesting level. -/
def prettyAt (unit : String) (level : Nat) : Json → String
  | arr (v :: rest) =>
    "[" ++ newline unit (level + 1) ++ prettyAt unit (level + 1) v ++ prettyItems unit level rest
  | obj ((k, v) :: rest) =>
    "\x7b" ++ newline unit (level + 1) ++ quote k ++ ": " ++ prettyAt unit (level + 1) v ++
      prettyMembers unit level rest
  | arr [] => "[]"
  | obj [] => "\x7b\x7d"
  | null => "null"
  | bool true => "true"
  | bool false => "false"
  | num n => n.write
  | str s => quote s

/-- The items after the first, and the closing bracket. -/
def prettyItems (unit : String) (level : Nat) : List Json → String
  | [] => newline unit level ++ "]"
  | v :: rest =>
    "," ++ newline unit (level + 1) ++ prettyAt unit (level + 1) v ++ prettyItems unit level rest

/-- The members after the first, and the closing brace. -/
def prettyMembers (unit : String) (level : Nat) : List (String × Json) → String
  | [] => newline unit level ++ "\x7d"
  | (k, v) :: rest =>
    "," ++ newline unit (level + 1) ++ quote k ++ ": " ++ prettyAt unit (level + 1) v ++
      prettyMembers unit level rest

end

/-- The pretty form, indented by `unit`. -/
def pretty (unit : String) (v : Json) : String :=
  prettyAt unit 0 v

end Codemod.Json
