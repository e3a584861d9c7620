import Codemod.Json.Value

/-!
# Reading JSON

A reader that reports what was wrong and where: the line and the column, counted in bytes, that
had been reached. Nesting is limited.

## Main definitions

* `Json.Cause` — what can be wrong, with its wording in `Cause.message`.
* `Json.Fault` — a cause and the number of bytes left unread.
* `Json.parse` — the value of a text.
-/

namespace Codemod.Json

inductive Cause where
  | eofInList
  | eofInObject
  | eofInString
  | eofInValue
  | expectedColon
  | expectedCommaOrBracket
  | expectedCommaOrBrace
  | expectedWord
  | expectedValue
  | invalidEscape
  | invalidNumber
  | numberOutOfRange
  | controlCharacter
  | keyNotString
  | loneSurrogate
  | unfinishedPair
  | trailingComma
  | trailingCharacters
  | tooDeep
  deriving DecidableEq

def Cause.message : Cause → String
  | eofInList => "EOF while parsing a list"
  | eofInObject => "EOF while parsing an object"
  | eofInString => "EOF while parsing a string"
  | eofInValue => "EOF while parsing a value"
  | expectedColon => "expected `:`"
  | expectedCommaOrBracket => "expected `,` or `]`"
  | expectedCommaOrBrace => "expected `,` or `\x7d`"
  | expectedWord => "expected ident"
  | expectedValue => "expected value"
  | invalidEscape => "invalid escape"
  | invalidNumber => "invalid number"
  | numberOutOfRange => "number out of range"
  | controlCharacter => "control character (\\u0000-\\u001F) found while parsing a string"
  | keyNotString => "key must be a string"
  | loneSurrogate => "lone leading surrogate in hex escape"
  | unfinishedPair => "unexpected end of hex escape"
  | trailingComma => "trailing comma"
  | trailingCharacters => "trailing characters"
  | tooDeep => "recursion limit exceeded"

/-- What was wrong, and how many bytes had not been read. -/
structure Fault where
  cause : Cause
  left : Nat
  deriving DecidableEq

/-- The number of bytes of a text. -/
def byteSize : List Char → Nat
  | [] => 0
  | c :: s => c.utf8Size + byteSize s

/-- A fault found after everything before `rest` had been read. -/
def Cause.before (cause : Cause) (rest : List Char) : Fault :=
  { cause, left := byteSize rest }

/-- A fault found by looking at the next byte of `rest`. -/
def Cause.at (cause : Cause) (rest : List Char) : Fault :=
  { cause, left := byteSize rest - 1 }

def isBlank (c : Char) : Bool :=
  c == ' ' || c == '\n' || c == '\t' || c == '\r'

def skipBlank (s : List Char) : List Char :=
  s.dropWhile isBlank

def isDigit (c : Char) : Bool :=
  '0' ≤ c && c ≤ '9'

def digitValue (c : Char) : Nat :=
  c.toNat - '0'.toNat

/-! ## Numbers -/

/-- The largest significand that is kept exactly. -/
def maxSignificand : Nat := Nat.pow 2 64 - 1

/-- Takes digits as long as the significand fits: the significand, how many digits were taken and
what follows. -/
def takeDigits : (significand taken : Nat) → List Char → Nat × Nat × List Char
  | n, k, c :: s =>
    if isDigit c then
      let n' := n * 10 + digitValue c
      if n' ≤ maxSignificand then takeDigits n' (k + 1) s else (n, k, c :: s)
    else (n, k, c :: s)
  | n, k, [] => (n, k, [])

/-- `10 ^ k` as a double, for `k` up to 308. -/
def powerOfTen (k : Nat) : Binary64 :=
  (Binary64.ofDecimal? false 1 k).getD Binary64.zero

/-- `x · 10 ^ e` in steps that each round once. A negative exponent beyond the table is worked off
in pieces of 308 places. -/
def scaleByTen (x : Binary64) (e : Int) : (fuel : Nat) → Option Binary64
  | 0 => some x
  | fuel + 1 =>
    if e.natAbs ≤ 308 then
      if e ≥ 0 then x.mul? (powerOfTen e.natAbs) else x.div? (powerOfTen e.natAbs)
    else if x.isZero then some x
    else if e ≥ 0 then none
    else
      match x.div? (powerOfTen 308) with
      | some y => scaleByTen y (e + 308) fuel
      | none => none

/-- The double `± n · 10 ^ e`, read off at `rest`. -/
def floatAt (positive : Bool) (n : Nat) (e : Int) (rest : List Char) : Except Fault (Num × List Char) :=
  let x := Binary64.ofRatio n 1
  match scaleByTen x e 5 with
  | some y => .ok (.float (if positive then y else y.neg), rest)
  | none => .error (Cause.numberOutOfRange.before rest)

/-- The largest exponent that is told apart from larger ones. -/
def maxExponent : Nat := Nat.pow 2 31 - 1

/-- Takes the digits of an exponent up to the one that makes it too large; the flag tells whether
there was such a digit. -/
def takeExponent : Nat → List Char → Nat × Bool × List Char
  | n, c :: s =>
    if isDigit c then
      let n' := n * 10 + digitValue c
      if n' ≤ maxExponent then takeExponent n' s else (n, true, s)
    else (n, false, c :: s)
  | n, [] => (n, false, [])

/-- Keeps an exponent within the range of thirty-two bits. -/
def clampExponent (e : Int) : Int :=
  max (-2147483648) (min 2147483647 e)

/-- Reads what follows the exponent mark. -/
def readExponent (positive : Bool) (n : Nat) (start : Int) (s : List Char) : Except Fault (Num × List Char) :=
  let (up, s) := match s with
    | '+' :: s => (true, s)
    | '-' :: s => (false, s)
    | s => (true, s)
  match s with
  | [] => .error (Cause.eofInValue.before [])
  | c :: s =>
    if isDigit c then
      let (e, tooLarge, rest) := takeExponent (digitValue c) s
      if tooLarge then
        if n ≠ 0 && up then .error (Cause.numberOutOfRange.before rest)
        else .ok (.float (if positive then Binary64.zero else Binary64.zero.neg), rest.dropWhile isDigit)
      else floatAt positive n (clampExponent (if up then start + e else start - e)) rest
    else .error (Cause.invalidNumber.before s)

/-- Reads an exponent if there is one. -/
def readTail (positive : Bool) (n : Nat) (e : Int) (s : List Char) : Except Fault (Num × List Char) :=
  match s with
  | 'e' :: s => readExponent positive n e s
  | 'E' :: s => readExponent positive n e s
  | s => floatAt positive n e s

/-- Reads what follows the decimal point. Digits beyond the largest significand are dropped. -/
def readDecimal (positive : Bool) (n : Nat) (e : Int) (s : List Char) : Except Fault (Num × List Char) :=
  let (n', k, rest) := takeDigits n 0 s
  match rest with
  | c :: _ =>
    if isDigit c then readTail positive n' (e - k) (rest.dropWhile isDigit)
    else if k = 0 then .error (Cause.invalidNumber.at rest)
    else readTail positive n' (e - k) rest
  | [] => if k = 0 then .error (Cause.eofInValue.at rest) else readTail positive n' (e - k) rest

/-- A whole number that fits, or the double nearest to it. -/
def wholeNumber (positive : Bool) (n : Nat) : Num :=
  if positive then .int n
  else if 0 < n ∧ n ≤ Nat.pow 2 63 then .int (-(n : Int))
  else .float (Binary64.ofRatio n 1).neg

/-- Reads a number whose sign has been read. -/
def readNumber (positive : Bool) : List Char → Except Fault (Num × List Char)
  | [] => .error (Cause.eofInValue.before [])
  | c :: s =>
    if isDigit c then
      let (n, _, rest) := if c = '0' then (0, 0, s) else takeDigits (digitValue c) 0 s
      match rest with
      | d :: rest' =>
        if isDigit d then
          if c = '0' then .error (Cause.invalidNumber.at rest)
          else
            -- too long for a significand: the further digits only count
            let more := (rest.takeWhile isDigit).length
            match rest.dropWhile isDigit with
            | '.' :: s => readDecimal positive n more s
            | s => readTail positive n more s
        else if d = '.' then readDecimal positive n 0 rest'
        else if d = 'e' || d = 'E' then readExponent positive n 0 rest'
        else .ok (wholeNumber positive n, rest)
      | [] => .ok (wholeNumber positive n, [])
    else .error (Cause.invalidNumber.before s)

/-! ## Strings -/

def hexValue? (c : Char) : Option Nat :=
  if isDigit c then some (digitValue c)
  else if 'a' ≤ c && c ≤ 'f' then some (c.toNat - 'a'.toNat + 10)
  else if 'A' ≤ c && c ≤ 'F' then some (c.toNat - 'A'.toNat + 10)
  else none

/-- Four hexadecimal digits from the front. A fault is reported four bytes on, or at the end. -/
def readHex (s : List Char) : Except Fault Nat :=
  if byteSize s < 4 then .error (Cause.eofInString.before [])
  else
    match s with
    | a :: b :: c :: d :: _ =>
      match hexValue? a, hexValue? b, hexValue? c, hexValue? d with
      | some a, some b, some c, some d => .ok (a * 4096 + b * 256 + c * 16 + d)
      | _, _, _, _ => .error { cause := .invalidEscape, left := byteSize s - 4 }
    | _ => .error { cause := .invalidEscape, left := byteSize s - 4 }

/-- The character of an escape and how many characters it takes after the backslash. -/
def readEscape (s : List Char) : Except Fault (Char × Nat) :=
  match s with
  | [] => .error (Cause.eofInString.before [])
  | c :: s =>
    if c = '\x22' || c = '\\' || c = '/' then .ok (c, 1)
    else if c = 'b' then .ok ('\x08', 1)
    else if c = 'f' then .ok ('\x0c', 1)
    else if c = 'n' then .ok ('\n', 1)
    else if c = 'r' then .ok ('\r', 1)
    else if c = 't' then .ok ('\t', 1)
    else if c = 'u' then do
      let n ← readHex s
      let s := s.drop 4
      if 0xdc00 ≤ n ∧ n ≤ 0xdfff then throw (Cause.loneSurrogate.before s)
      else if n < 0xd800 ∨ 0xdbff < n then return (Char.ofNat n, 5)
      else
        -- the first half of a pair
        match s with
        | [] => throw (Cause.eofInString.before [])
        | '\\' :: [] => throw (Cause.eofInString.before [])
        | '\\' :: 'u' :: s =>
          let m ← readHex s
          if m < 0xdc00 ∨ 0xdfff < m then throw (Cause.loneSurrogate.before (s.drop 4))
          else return (Char.ofNat (0x10000 + (n - 0xd800) * 0x400 + (m - 0xdc00)), 11)
        | '\\' :: s => throw (Cause.unfinishedPair.at s)
        | s => throw (Cause.unfinishedPair.at s)
    else .error (Cause.invalidEscape.before s)

/-- Reads a string whose opening quote has been read. -/
def readString (s : List Char) : Except Fault (List Char × List Char) :=
  match s with
  | [] => .error (Cause.eofInString.before [])
  | c :: s =>
    if c = '\x22' then .ok ([], s)
    else if c = '\\' then
      match readEscape s with
      | .error f => .error f
      | .ok (e, k) =>
        match readString (s.drop k) with
        | .error f => .error f
        | .ok (cs, rest) => .ok (e :: cs, rest)
    else if c.toNat < 0x20 then .error (Cause.controlCharacter.before s)
    else
      match readString s with
      | .error f => .error f
      | .ok (cs, rest) => .ok (c :: cs, rest)
termination_by s.length
decreasing_by all_goals (simp only [List.length_cons, List.length_drop]; omega)

/-! ## Values -/

/-- Reads the rest of a word. -/
def readWord (value : Json) : (word s : List Char) → Except Fault (Json × List Char)
  | [], s => .ok (value, s)
  | _ :: _, [] => .error (Cause.eofInValue.before [])
  | a :: w, c :: s => if a = c then readWord value w s else .error (Cause.expectedWord.before s)

/-- How many levels a text may nest, one of them for the text itself. -/
def maxDepth : Nat := 128

mutual

/-- Reads a value with `depth` levels left. The fuel bounds the number of values. -/
def readValue : (fuel depth : Nat) → List Char → Except Fault (Json × List Char)
  | 0, _, s => .error (Cause.tooDeep.at s)
  | fuel + 1, depth, s =>
    match skipBlank s with
    | [] => .error (Cause.eofInValue.at [])
    | c :: rest =>
      if c = 'n' then readWord null "ull".toList rest
      else if c = 't' then readWord (bool true) "rue".toList rest
      else if c = 'f' then readWord (bool false) "alse".toList rest
      else if c = '-' then do
        let (n, rest) ← readNumber false rest
        return (num n, rest)
      else if isDigit c then do
        let (n, rest) ← readNumber true (c :: rest)
        return (num n, rest)
      else if c = '\x22' then do
        let (cs, rest) ← readString rest
        return (str (String.ofList cs), rest)
      else if c = '[' then
        if depth ≤ 1 then .error (Cause.tooDeep.at (c :: rest))
        else
          match skipBlank rest with
          | ']' :: rest => .ok (arr [], rest)
          | [] => .error (Cause.eofInList.at [])
          | rest => readItems fuel (depth - 1) [] rest
      else if c = '\x7b' then
        if depth ≤ 1 then .error (Cause.tooDeep.at (c :: rest))
        else
          match skipBlank rest with
          | '\x7d' :: rest => .ok (obj [], rest)
          | [] => .error (Cause.eofInObject.at [])
          | rest => readMembers fuel (depth - 1) [] rest
      else .error (Cause.expectedValue.at (c :: rest))

/-- Reads an item, those after it and the closing bracket. -/
def readItems : (fuel depth : Nat) → (before : List Json) → List Char → Except Fault (Json × List Char)
  | 0, _, _, s => .error (Cause.tooDeep.at s)
  | fuel + 1, depth, before, s => do
    let (v, rest) ← readValue fuel depth s
    match skipBlank rest with
    | [] => .error (Cause.eofInList.at [])
    | ']' :: rest => .ok (arr (before ++ [v]), rest)
    | ',' :: rest =>
      match skipBlank rest with
      | [] => .error (Cause.eofInValue.at [])
      | ']' :: rest => .error (Cause.trailingComma.at (']' :: rest))
      | rest => readItems fuel depth (before ++ [v]) rest
    | rest => .error (Cause.expectedCommaOrBracket.at rest)

/-- Reads a member, those after it and the closing brace. -/
def readMembers : (fuel depth : Nat) → (before : List (String × Json)) → List Char → Except Fault (Json × List Char)
  | 0, _, _, s => .error (Cause.tooDeep.at s)
  | fuel + 1, depth, before, s =>
    match s with
    | '\x22' :: rest => do
      let (cs, rest) ← readString rest
      match skipBlank rest with
      | [] => .error (Cause.eofInObject.at [])
      | ':' :: rest =>
        let (v, rest) ← readValue fuel depth rest
        let members := insert (String.ofList cs) v before
        match skipBlank rest with
        | [] => .error (Cause.eofInObject.at [])
        | '\x7d' :: rest => .ok (obj members, rest)
        | ',' :: rest =>
          match skipBlank rest with
          | [] => .error (Cause.eofInValue.at [])
          | '\x7d' :: rest => .error (Cause.trailingComma.at ('\x7d' :: rest))
          | rest => readMembers fuel depth members rest
        | rest => .error (Cause.expectedCommaOrBrace.at rest)
      | rest => .error (Cause.expectedColon.at rest)
    | rest => .error (Cause.keyNotString.at rest)

end

/-- Reads a text that holds one value and nothing else. -/
def read (s : List Char) : Except Fault Json := do
  let (v, rest) ← readValue (2 * s.length + 2) maxDepth s
  match skipBlank rest with
  | [] => .ok v
  | rest => .error (Cause.trailingCharacters.at rest)

/-! ## Places -/

/-- The line and the column of a byte offset; `column` bytes of the present line are done. -/
def placeFrom (line column : Nat) : (offset : Nat) → List Char → Nat × Nat
  | 0, _ => (line, column)
  | n + 1, [] => (line, column + n + 1)
  | n + 1, c :: s =>
    if c = '\n' then placeFrom (line + 1) 0 n s
    else if n + 1 ≤ c.utf8Size then (line, column + n + 1)
    else placeFrom line (column + c.utf8Size) (n + 1 - c.utf8Size) s
termination_by _ s => s.length

/-- The line, from one, and the column after `offset` bytes of `s`. -/
def place (s : List Char) (offset : Nat) : Nat × Nat :=
  placeFrom 1 0 offset s

/-- The cause of a fault in `s` and where it was met. -/
def Fault.message (f : Fault) (s : List Char) : String :=
  let (line, column) := place s (byteSize s - f.left)
  f.cause.message ++ " at line " ++ toString line ++ " column " ++ toString column

/-- The value of a text, or a message that says what is wrong with it. -/
def parse (s : String) : Except String Json :=
  match read s.toList with
  | .ok v => .ok v
  | .error f => .error (f.message s.toList)

end Codemod.Json
