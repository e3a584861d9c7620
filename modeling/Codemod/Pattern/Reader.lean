import Codemod.Pattern
import Codemod.Pattern.Property

/-!
# Reading patterns

The written form of patterns. What has a meaning in other dialects and none here, such as looking
ahead or referring back, is refused.

## Main definitions

* `Pattern.Invalid` — what can be wrong with a written pattern.
* `Pattern.parse` — the pattern that a text describes.
* `Pattern.Engine` — what reads patterns and finds them in texts.
-/

namespace Codemod.Pattern

inductive Invalid where
  | unclosedGroup
  | unopenedGroup
  | unclosedClass
  | unclosedCount
  | badCount
  | nothingToRepeat
  | badEscape
  | badClassRange
  | badClassEscape
  | badFlag
  | badGroupName
  | lookAround
  | unknownProperty
  | tooDeep
  | tooLarge
  | notText
  deriving DecidableEq, Inhabited

def Invalid.message : Invalid → String
  | unclosedGroup => "unclosed group"
  | unopenedGroup => "unopened group"
  | unclosedClass => "unclosed character class"
  | unclosedCount => "unclosed counted repetition"
  | badCount => "invalid repetition count"
  | nothingToRepeat => "repetition operator missing expression"
  | badEscape => "unrecognized escape sequence"
  | badClassRange => "invalid character class range"
  | badClassEscape => "invalid escape sequence in character class"
  | badFlag => "unrecognized flag"
  | badGroupName => "invalid capture group name"
  | lookAround => "look-around is not supported"
  | unknownProperty => "Unicode property not found"
  | tooDeep => "exceed the maximum number of nested parentheses/brackets (250)"
  | tooLarge => "Compiled regex exceeds size limit of 10485760 bytes."
  | notText => "pattern can match invalid UTF-8"

structure Flags where
  ignoreCase : Bool := false
  multiLine : Bool := false
  dotAll : Bool := false
  crlf : Bool := false
  unicode : Bool := true
  /-- Blanks and comments in the pattern mean nothing. -/
  extended : Bool := false
  deriving DecidableEq, Inhabited

structure Cursor where
  rest : List Char
  flags : Flags := {}
  /-- The names of the groups so far. -/
  names : List (List Char) := []
  deriving Inhabited

/-- Reading from a cursor. -/
abbrev Read := StateT Cursor (Except Invalid)

namespace Read

def peek : Read (Option Char) := do
  return (← get).rest.head?

def bump (n : Nat) : Read Unit :=
  modify fun c => { c with rest := c.rest.drop n }

/-- Whether the text goes on with a word. -/
def ahead (word : String) : Read Bool := do
  return word.toList.isPrefixOf (← get).rest

/-- Skips blanks and comments, if they mean nothing. -/
def skipExtended : Read Unit :=
  modify fun c => if c.flags.extended then { c with rest := skip false c.rest } else c
where
  skip (inComment : Bool) : List Char → List Char
    | [] => []
    | c :: s =>
      if inComment then skip (c != '\n') s
      else if Text.isBlank c then skip false s
      else if c = '#' then skip true s
      else c :: s

end Read

open Read

/-- Something that has been read, and how deep its written form is nested. -/
structure Nested (α : Type) where
  value : α
  depth : Nat := 0
  deriving Inhabited

/-- Several parts together are one deeper than the deepest of them. -/
def depthOf : List Nat → Nat
  | [] => 0
  | [d] => d
  | ds => ds.foldl max 0 + 1

/-! ## Escapes -/

def hexDigit? (c : Char) : Option Nat :=
  if '0' ≤ c && c ≤ '9' then some (c.toNat - '0'.toNat)
  else if 'a' ≤ c && c ≤ 'f' then some (c.toNat - 'a'.toNat + 10)
  else if 'A' ≤ c && c ≤ 'F' then some (c.toNat - 'A'.toNat + 10)
  else none

def isCodePoint (n : Nat) : Bool :=
  n < 0xd800 || (0xdfff < n && n < 0x110000)

/-- The value of hexadecimal digits, if they name a character. -/
def codeOf (digits : List Char) : Except Invalid Char :=
  match digits.mapM hexDigit? with
  | some (d :: ds) =>
    let n := (d :: ds).foldl (fun n d => n * 16 + d) 0
    if isCodePoint n then .ok (Char.ofNat n) else .error .badEscape
  | _ => .error .badEscape

/-- A code point of a fixed number of digits, or of any number in braces. -/
def readCode (digits : Nat) : Read Char := do
  let s := (← get).rest
  match s with
  | '\x7b' :: s =>
    let inside := s.takeWhile (· != '\x7d')
    if inside.length = s.length then throw .badEscape
    let c ← codeOf inside
    bump (inside.length + 2)
    return c
  | s =>
    let inside := s.take digits
    if inside.length ≠ digits then throw .badEscape
    let c ← codeOf inside
    -- two digits stand for a byte where text is bytes
    if digits = 2 && !(← get).flags.unicode && 0x7f < c.toNat then throw .notText
    bump digits
    return c

/-- What an escape stands for. -/
inductive Escape where
  | char (c : Char)
  | set (s : CharSet)
  | anchor (a : Anchor)

def negateIf (negated : Bool) (s : CharSet) : CharSet :=
  if negated then .compl s else s

/-- A set that is given by a letter; its complement is not a set of text without `unicode`. -/
def letterSet (negated : Bool) (s : Bool → CharSet) : Read Escape := do
  let ascii := !(← get).flags.unicode
  if ascii && negated then throw .notText
  return .set (negateIf negated (s ascii))

/-- A property by its name, or by its name and a value of it. -/
def property? (inside : List Char) : Option CharSet :=
  let name := inside.takeWhile fun c => c != '=' && c != ':' && c != '!'
  match inside.drop name.length with
  | [] => Property.find? (String.ofList name)
  | '!' :: '=' :: value =>
    (Property.value? (String.ofList name) (String.ofList value)).map .compl
  | '!' :: _ => none
  | _ :: value => Property.value? (String.ofList name) (String.ofList value)

/-- A property after its letter: one character or, in braces, a name. -/
def readProperty (negated : Bool) : Read Escape := do
  unless (← get).flags.unicode do throw .notText
  let set (negated : Bool) (inside : List Char) : Read Escape :=
    match property? inside with
    | some p => return .set (negateIf negated p)
    | none => throw .unknownProperty
  match (← get).rest with
  | '\x7b' :: s =>
    let inside := s.takeWhile (· != '\x7d')
    if inside.length = s.length then throw .badEscape
    bump (inside.length + 2)
    if inside.head? == some '^' then set (!negated) (inside.drop 1) else set negated inside
  | c :: _ =>
    bump 1
    set negated [c]
  | [] => throw .badEscape

/-- The kind of a word boundary, which may follow in braces. -/
def readBoundary : Read Edge := do
  if ← ahead "\x7bstart\x7d" then
    bump 7
    return .wordStart
  else if ← ahead "\x7bend\x7d" then
    bump 5
    return .wordEnd
  else if ← ahead "\x7bstart-half\x7d" then
    bump 12
    return .noWordBefore
  else if ← ahead "\x7bend-half\x7d" then
    bump 10
    return .noWordAfter
  else return .boundary

/-- What follows a backslash. -/
def readEscape : Read Escape := do
  match (← get).rest with
  | [] => throw .badEscape
  | c :: _ =>
    bump 1
    let ascii := !(← get).flags.unicode
    match c with
    | 'd' => letterSet false CharSet.digit
    | 'D' => letterSet true CharSet.digit
    | 's' => letterSet false CharSet.blank
    | 'S' => letterSet true CharSet.blank
    | 'w' => letterSet false CharSet.word
    | 'W' => letterSet true CharSet.word
    | 'p' => readProperty false
    | 'P' => readProperty true
    | 'a' => return .char '\x07'
    | 'f' => return .char '\x0c'
    | 't' => return .char '\t'
    | 'n' => return .char '\n'
    | 'r' => return .char '\r'
    | 'v' => return .char '\x0b'
    | 'A' => return .anchor .textStart
    | 'z' => return .anchor .textEnd
    | 'b' => return .anchor (.edge ascii (← readBoundary))
    | 'B' => return .anchor (.edge ascii .noBoundary)
    | '<' => return .anchor (.edge ascii .wordStart)
    | '>' => return .anchor (.edge ascii .wordEnd)
    | 'x' => return .char (← readCode 2)
    | 'u' => return .char (← readCode 4)
    | 'U' => return .char (← readCode 8)
    | c =>
      if c.toNat < 0x80 && !c.isAlphanum then return .char c else throw .badEscape

/-! ## Classes -/

/-- The set of a single character in a class or alone. -/
def foldIf (f : Flags) (s : CharSet) : CharSet :=
  if f.ignoreCase then .folded (!f.unicode) s else s

/-- One end of a range in a class. -/
def readClassAtom : Read Escape := do
  match (← get).rest with
  | [] => throw .unclosedClass
  | '\\' :: _ =>
    bump 1
    match ← readEscape with
    | .anchor _ => throw .badClassEscape
    | e => return e
  | c :: _ =>
    bump 1
    return .char c

def Escape.toSet : Escape → CharSet
  | .char c => .single c
  | .set s => s
  | .anchor _ => .empty

/-- A character, a set, or a range of characters. -/
def readClassRange : Read CharSet := do
  let first ← readClassAtom
  skipExtended
  match (← get).rest with
  | [] => throw .unclosedClass
  | '-' :: rest =>
    let next := (skipped (← get).flags rest).head?
    if next == some ']' || next == some '-' then return first.toSet
    bump 1
    skipExtended
    match first, ← readClassAtom with
    | .char a, .char b =>
      if a.toNat ≤ b.toNat then return .ranges [(a.toNat, b.toNat)] else throw .badClassRange
    | _, _ => throw .badClassRange
  | _ => return first.toSet
where
  skipped (f : Flags) (s : List Char) : List Char :=
    if f.extended then skipExtended.skip false s else s

/-- A named set such as `[:alpha:]`, if there is one. -/
def readNamedSet : Read (Option CharSet) := do
  match (← get).rest with
  | '[' :: ':' :: s =>
    let negated := s.head? == some '^'
    let s' := if negated then s.drop 1 else s
    let name := s'.takeWhile (· != ':')
    if (s'.drop name.length).take 2 == [':', ']'] then
      match CharSet.named? (String.ofList name) with
      | some set =>
        bump (2 + (if negated then 1 else 0) + name.length + 2)
        return some (negateIf negated set)
      | none => return none
    else return none
  | _ => return none

inductive SetOperator where
  | inter
  | diff
  | symmDiff
  deriving DecidableEq

def SetOperator.apply : SetOperator → CharSet → CharSet → CharSet
  | inter, a, b => .inter a b
  | diff, a, b => .diff a b
  | symmDiff, a, b => .symmDiff a b

/-- What stands before an operator that is still to be applied. -/
abbrev Pending := Option (Nested CharSet × SetOperator)

/-- The union of items, the latest of which is the first, as the last operand so far. -/
def operand (f : Flags) (pending : Pending) (items : List (Nested CharSet)) : Nested CharSet :=
  let s := foldIf f (items.foldr (fun item s => .union s item.value) .empty)
  let depth := depthOf (items.map (·.depth))
  match pending with
  | some (left, op) => ⟨op.apply left.value s, max left.depth depth + 1⟩
  | none => ⟨s, depth⟩

/-- Minus signs at the front of a class, which stand for themselves, or a bracket. -/
def leadingMinus : Read (List (Nested CharSet)) := do
  let minuses := (← get).rest.takeWhile (· == '-')
  bump minuses.length
  if minuses.isEmpty && (← peek) == some ']' then
    bump 1
    return [{ value := .single ']' }]
  else return minuses.map fun c => { value := .single c }

/-- A class after its opening bracket. -/
def readClass : (fuel : Nat) → Read (Nested CharSet)
  | 0 => throw .unclosedClass
  | fuel + 1 => do
    skipExtended
    let negated := (← peek) == some '^'
    if negated then
      bump 1
      skipExtended
    if negated && !(← get).flags.unicode then throw .notText
    let items ← leadingMinus
    let s ← readItems fuel none items
    return ⟨negateIf negated s.value, s.depth + 1⟩
where
  readItems : (fuel : Nat) → Pending → List (Nested CharSet) → Read (Nested CharSet)
    | 0, _, _ => throw .unclosedClass
    | fuel + 1, pending, items => do
      skipExtended
      let flags := (← get).flags
      match (← get).rest with
      | [] => throw .unclosedClass
      | ']' :: _ =>
        bump 1
        return operand flags pending items
      | '[' :: _ =>
        match ← readNamedSet with
        | some s => readItems fuel pending ({ value := s } :: items)
        | none =>
          bump 1
          let s ← readClass fuel
          readItems fuel pending (s :: items)
      | '&' :: '&' :: _ =>
        bump 2
        readItems fuel (some (operand flags pending items, .inter)) []
      | '-' :: '-' :: _ =>
        bump 2
        readItems fuel (some (operand flags pending items, .diff)) []
      | '~' :: '~' :: _ =>
        bump 2
        readItems fuel (some (operand flags pending items, .symmDiff)) []
      | _ => do
        let s ← readClassRange
        readItems fuel pending ({ value := s } :: items)

/-! ## Flags and groups -/

def Flags.set (f : Flags) (c : Char) (on : Bool) : Option Flags :=
  match c with
  | 'i' => some { f with ignoreCase := on }
  | 'm' => some { f with multiLine := on }
  | 's' => some { f with dotAll := on }
  | 'R' => some { f with crlf := on }
  | 'u' => some { f with unicode := on }
  | 'x' => some { f with extended := on }
  | 'U' => some f
  | _ => none

/-- Flags up to a colon or a closing parenthesis, which stays. `seen` are those so far. -/
def readFlags : (fuel : Nat) → (seen : List Char) → (on : Bool) → Flags → Read Flags
  | 0, _, _, _ => throw .badFlag
  | fuel + 1, seen, on, f => do
    match (← get).rest with
    | [] => throw .badFlag
    | c :: _ =>
      if c = ':' || c = ')' then
        if seen.head? == some '-' then throw .badFlag else return f
      else if seen.contains c then throw .badFlag
      else if c = '-' then
        bump 1
        readFlags fuel (c :: seen) false f
      else
        match f.set c on with
        | some f =>
          bump 1
          readFlags fuel (c :: seen) on f
        | none => throw .badFlag

def isNameStart (c : Char) : Bool :=
  c == '_' || c.isAlpha || (c.toNat ≥ 0x80 && isWordChar c)

def isNameChar (c : Char) : Bool :=
  isNameStart c || c.isDigit || c == '.' || c == '[' || c == ']'

/-- A group's name and the bracket after it. -/
def readName : Read Unit := do
  let c ← get
  let name := c.rest.takeWhile (· != '>')
  if name.length = c.rest.length || !(name.head?.map isNameStart).getD false ||
      !name.all isNameChar || c.names.contains name then
    throw .badGroupName
  set { c with rest := c.rest.drop (name.length + 1), names := name :: c.names }

/-! ## Counts -/

/-- A number in a count; blanks around it mean nothing. -/
def readNumber : Read (Option Nat) := do
  modify fun c => { c with rest := c.rest.dropWhile Text.isBlank }
  let digits := (← get).rest.takeWhile Char.isDigit
  modify fun c => { c with rest := (c.rest.drop digits.length).dropWhile Text.isBlank }
  if digits.isEmpty then return none
  let n := digits.foldl (fun n d => n * 10 + (d.toNat - '0'.toNat)) 0
  if n < Nat.pow 2 32 then return some n else throw .badCount

/-- A count after its opening brace. -/
def readCount : Read (Nat × Option Nat) := do
  let least ← readNumber
  let range ← do
    match (← get).rest, least with
    | [], _ => throw .unclosedCount
    | ',' :: _, some least =>
      bump 1
      skipExtended
      match (← get).rest with
      | [] => throw .unclosedCount
      | '\x7d' :: _ => pure (least, none)
      | _ =>
        match ← readNumber with
        | some most => pure (least, some most)
        | none => throw .badCount
    | _, some least => pure (least, some least)
    | _, none => throw .badCount
  match (← get).rest with
  | '\x7d' :: _ => bump 1
  | _ => throw .unclosedCount
  match range with
  | (least, some most) => if most < least then throw .badCount else return range
  | _ => return range

/-! ## Expressions -/

/-- A piece of a sequence. -/
structure Piece where
  pattern : Pattern
  depth : Nat := 0
  isRepeatable : Bool := true

/-- The pieces one after the other; the latest is the first of the list. -/
def sequence (pieces : List Piece) : Nested Pattern :=
  ⟨joined pieces, depthOf (pieces.map (·.depth))⟩
where
  joined : List Piece → Pattern
    | [] => .empty
    | [p] => p.pattern
    | p :: rest => .seq (joined rest) p.pattern

def dot (f : Flags) : Except Invalid Pattern :=
  if !f.unicode then .error .notText
  else if f.dotAll then .ok (.chars (.compl .empty))
  else if f.crlf then .ok (.chars (.compl (.ranges [(0xa, 0xa), (0xd, 0xd)])))
  else .ok (.chars (.compl (.ranges [(0xa, 0xa)])))

/-- Repeats the last piece. -/
def repeatLast (pieces : List Piece) (least : Nat) (most : Option Nat) : Read (List Piece) := do
  match pieces with
  | ⟨p, depth, true⟩ :: rest =>
    if (← peek) == some '?' then bump 1
    return ⟨.times p least most, depth + 1, true⟩ :: rest
  | _ => throw .nothingToRepeat

mutual

/-- Alternatives up to the end of the text or a closing parenthesis, and the depth of each. -/
def readAlternatives : (fuel : Nat) → Read (Pattern × List Nat)
  | 0 => throw .unclosedGroup
  | fuel + 1 => do
    let p ← readSequence fuel []
    if (← peek) == some '|' then
      bump 1
      let (q, depths) ← readAlternatives fuel
      return (.alt p.value q, p.depth :: depths)
    else return (p.value, [p.depth])

/-- A sequence up to a bar, a closing parenthesis or the end. -/
def readSequence : (fuel : Nat) → List Piece → Read (Nested Pattern)
  | 0, _ => throw .unclosedGroup
  | fuel + 1, pieces => do
    skipExtended
    let f := (← get).flags
    match (← get).rest with
    | [] => return sequence pieces
    | c :: _ =>
      if c = '|' || c = ')' then return sequence pieces
      else
        bump 1
        match c with
        | '*' => readSequence fuel (← repeatLast pieces 0 none)
        | '+' => readSequence fuel (← repeatLast pieces 1 none)
        | '?' => readSequence fuel (← repeatLast pieces 0 (some 1))
        | '\x7b' =>
          match pieces with
          | ⟨_, _, true⟩ :: _ =>
            let (least, most) ← readCount
            readSequence fuel (← repeatLast pieces least most)
          | _ => throw .nothingToRepeat
        | '(' =>
          let piece ← readGroup fuel
          readSequence fuel (piece :: pieces)
        | '[' =>
          let s ← readClass fuel
          readSequence fuel ({ pattern := .chars s.value, depth := s.depth } :: pieces)
        | '.' => readSequence fuel ({ pattern := ← dot f } :: pieces)
        | '^' =>
          let a := if f.multiLine then Anchor.lineStart f.crlf else .textStart
          readSequence fuel ({ pattern := .anchor a } :: pieces)
        | '$' =>
          let a := if f.multiLine then Anchor.lineEnd f.crlf else .textEnd
          readSequence fuel ({ pattern := .anchor a } :: pieces)
        | '\\' =>
          match ← readEscape with
          | .char c => readSequence fuel ({ pattern := .chars (foldIf f (.single c)) } :: pieces)
          | .set s => readSequence fuel ({ pattern := .chars s } :: pieces)
          | .anchor a => readSequence fuel ({ pattern := .anchor a } :: pieces)
        | c => readSequence fuel ({ pattern := .chars (foldIf f (.single c)) } :: pieces)

/-- A group after its opening parenthesis, or flags for what follows. -/
def readGroup : (fuel : Nat) → Read Piece
  | 0 => throw .unclosedGroup
  | fuel + 1 => do
    let flags := (← get).flags
    match (← get).rest with
    | '?' :: 'P' :: '<' :: _ =>
      bump 3
      readName
      readBody fuel flags
    | '?' :: '<' :: c :: _ =>
      if c = '=' || c = '!' then throw .lookAround
      bump 2
      readName
      readBody fuel flags
    | '?' :: c :: _ =>
      if c = '=' || c = '!' then throw .lookAround
      bump 1
      let new ← readFlags 16 [] true flags
      match (← get).rest with
      | ':' :: _ =>
        bump 1
        modify fun c => { c with flags := new }
        readBody fuel flags
      | _ =>
        if c = ')' then throw .nothingToRepeat
        bump 1
        modify fun c => { c with flags := new }
        return { pattern := .empty, isRepeatable := false }
    | _ => readBody fuel flags

/-- The inside of a group; after it the flags from before count again. -/
def readBody : (fuel : Nat) → (outer : Flags) → Read Piece
  | 0, _ => throw .unclosedGroup
  | fuel + 1, outer => do
    let (p, depths) ← readAlternatives fuel
    match (← get).rest with
    | ')' :: _ =>
      bump 1
      modify fun c => { c with flags := outer }
      return { pattern := p, depth := depthOf depths + 1 }
    | _ => throw .unclosedGroup

end

/-- Patterns that are nested deeper than this are refused. -/
def nestLimit : Nat := 250

/-- Patterns that come to more steps than this are refused. -/
def sizeLimit : Nat := 327680

/-- The pattern that a text describes. -/
def parse (s : String) : Except Invalid Pattern := do
  let ((p, depths), c) ← (readAlternatives (4 * s.length + 8)).run { rest := s.toList }
  unless c.rest.isEmpty do throw .unopenedGroup
  if nestLimit < depthOf depths then throw .tooDeep
  if sizeLimit < p.size then throw .tooLarge
  return p

/-! ## Engines -/

/-- What reads patterns and finds them in texts. Rules and settings are made for any engine. -/
structure Engine where
  /-- The texts that a written pattern is found in, or what is wrong with it. -/
  compile : String → Except Invalid (String → Bool)

def Engine.standard : Engine where
  compile s := (parse s).map isFoundIn

end Codemod.Pattern
