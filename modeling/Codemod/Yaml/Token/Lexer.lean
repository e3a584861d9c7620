import Codemod.Yaml.Token

/-!
# Cutting a YAML text into tokens

A key is recognised only when the colon after it is met, so the lexer remembers where a key could
have begun, one place for each level of brackets, and puts the token in later.

## Main definitions

* `Lexer` — how far the lexer has come.
* `tokens` — the tokens of a text.
-/

namespace Codemod.Yaml

/-- Where a key could have begun. -/
structure KeyPlace where
  /-- How many tokens come before it. -/
  token : Nat
  index : Nat
  line : Nat
  column : Nat
  /-- Nothing but a key can stand there. -/
  required : Bool
  deriving Inhabited

structure Lexer where
  rest : List Char
  index : Nat := 0
  line : Nat := 0
  column : Nat := 0
  tokens : Array Token := #[]
  flowLevel : Nat := 0
  /-- The indentation of the present block; `-1` outside of all blocks. -/
  indent : Int := -1
  /-- The indentations of the blocks around it, innermost first. -/
  indents : List Int := []
  /-- A key could begin here. -/
  keyAllowed : Bool := true
  /-- Where a key could have begun, for each level of brackets, innermost first. -/
  keys : List (Option KeyPlace) := [none]
  deriving Inhabited

abbrev Lex := StateT Lexer (Except Invalid)

namespace Lex

def peek (n : Nat) : Lex (Option Char) := do
  return (← get).rest[n]?

/-- Whether a character satisfies `p`; the end of the text counts as `atEnd`. -/
def test (n : Nat) (atEnd : Bool) (p : Char → Bool) : Lex Bool := do
  match ← peek n with
  | some c => return p c
  | none => return atEnd

def isBlankOrEnd (n : Nat) : Lex Bool :=
  test n true fun c => isBlank c || isBreak c

/-- Goes on by `n` characters of one line. -/
def skip (n : Nat) : Lex Unit :=
  modify fun l =>
    { l with rest := l.rest.drop n, index := l.index + n, column := l.column + n }

/-- Takes the next character. -/
def take : Lex (List Char) := do
  let c := (← get).rest.take 1
  skip 1
  return c

/-- Takes a line break; most of them become `\n`. -/
def takeBreak : Lex (List Char) := do
  let l ← get
  let (text, n) : List Char × Nat :=
    match l.rest with
    | '\r' :: '\n' :: _ => (['\n'], 2)
    | c :: _ => (if c = '\u2028' || c = '\u2029' then [c] else ['\n'], 1)
    | [] => ([], 0)
  set { l with rest := l.rest.drop n, index := l.index + n, column := 0, line := l.line + 1 }
  return text

/-- Takes characters while they satisfy `p`. -/
def takeWhile (p : Char → Bool) : Lex (List Char) := do
  let cs := (← get).rest.takeWhile p
  skip cs.length
  return cs

def emit (t : Token) : Lex Unit :=
  modify fun l => { l with tokens := l.tokens.push t }

def insertAt (i : Nat) (t : Token) : Lex Unit :=
  modify fun l => { l with tokens := (l.tokens.toList.take i ++ t :: l.tokens.toList.drop i).toArray }

def allowKey (b : Bool) : Lex Unit :=
  modify fun l => { l with keyAllowed := b }

def inFlow : Lex Bool := do
  return (← get).flowLevel != 0

/-! ## Keys and indentation -/

def dropKey : Lex Unit := do
  let l ← get
  match l.keys with
  | some k :: rest =>
    if k.required then throw .missingColon
    set { l with keys := none :: rest }
  | _ => pure ()

/-- Remembers that a key could begin here. -/
def saveKey : Lex Unit := do
  let l ← get
  if l.keyAllowed then
    dropKey
    let k : KeyPlace :=
      { token := l.tokens.size, index := l.index, line := l.line, column := l.column
        required := l.flowLevel = 0 && l.indent = (l.column : Int) }
    modify fun l => { l with keys := some k :: l.keys.drop 1 }

/-- Forgets places whose key would be on another line or too long. -/
def dropStaleKeys : Lex Unit := do
  let l ← get
  let isStale (k : KeyPlace) : Bool := k.line < l.line || k.index + 1024 < l.index
  let keys ← l.keys.mapM fun k =>
    match k with
    | some k =>
      if isStale k then (if k.required then throw .missingColon else pure none) else pure (some k)
    | none => pure none
  set { l with keys }

/-- Opens a block that is indented to `column`, with its token at place `i`. -/
def openBlock (column i : Nat) (t : Token) : Lex Unit := do
  let l ← get
  if l.flowLevel = 0 && l.indent < column then
    set { l with indents := l.indent :: l.indents, indent := column }
    insertAt i t

/-- Closes the blocks that are indented further than `column`. -/
def closeBlocks (column : Int) : Lex Unit :=
  modify fun l => if l.flowLevel = 0 then close l column l.indents else l
where
  close (l : Lexer) (column : Int) : List Int → Lexer
    | [] =>
      if l.indent > column then
        { l with tokens := l.tokens.push .blockEnd, indent := -1, indents := [] }
      else l
    | i :: rest =>
      if l.indent > column then
        close { l with tokens := l.tokens.push .blockEnd, indent := i, indents := rest } column rest
      else l

/-! ## Blanks -/

/-- Skips blanks, comments and line breaks. -/
def skipBlanks : (fuel : Nat) → Lex Unit
  | 0 => pure ()
  | fuel + 1 => do
    let l ← get
    let tabs := l.flowLevel ≠ 0 || !l.keyAllowed
    let _ ← takeWhile fun c => c == ' ' || (c == '\t' && tabs)
    if (← peek 0) == some '#' then
      let _ ← takeWhile (!isBreak ·)
    if ← test 0 false isBreak then
      let _ ← takeBreak
      if (← get).flowLevel = 0 then allowKey true
      skipBlanks fuel

/-! ## Scalars -/

/-- Whether a line here is `---` or `...`. -/
def atDocumentMark : Lex Bool := do
  let l ← get
  let mark := l.rest.take 3
  return l.column == 0 && (mark == "---".toList || mark == "...".toList) && (← isBlankOrEnd 3)

/-- Joins what stands before and after blanks and line breaks. One line break becomes a space, of
several the first is dropped. -/
def joint (broken : Bool) (blanks firstBreak moreBreaks : List Char) : List Char :=
  if !broken then blanks
  else if firstBreak == ['\n'] then if moreBreaks.isEmpty then [' '] else moreBreaks
  else firstBreak ++ moreBreaks

/-- Blanks and line breaks inside a scalar. -/
structure Gap where
  broken : Bool := false
  blanks : List Char := []
  firstBreak : List Char := []
  moreBreaks : List Char := []

def Gap.text (g : Gap) : List Char :=
  joint g.broken g.blanks g.firstBreak g.moreBreaks

/-- Takes blanks and line breaks. In plain text a tab may not stand left of `tabLimit`. -/
def takeGap (tabLimit : Int) : (fuel : Nat) → Gap → Lex Gap
  | 0, g => return g
  | fuel + 1, g => do
    match ← peek 0 with
    | none => return g
    | some c =>
      if isBlank c then
        if g.broken && c == '\t' && ((← get).column : Int) < tabLimit then throw .tabInIndentation
        skip 1
        takeGap tabLimit fuel (if g.broken then g else { g with blanks := g.blanks ++ [c] })
      else if isBreak c then
        let b ← takeBreak
        takeGap tabLimit fuel
          (if g.broken then { g with moreBreaks := g.moreBreaks ++ b }
          else { g with broken := true, blanks := [], firstBreak := b })
      else return g

def hexValue? (c : Char) : Option Nat :=
  if '0' ≤ c && c ≤ '9' then some (c.toNat - '0'.toNat)
  else if 'a' ≤ c && c ≤ 'f' then some (c.toNat - 'a'.toNat + 10)
  else if 'A' ≤ c && c ≤ 'F' then some (c.toNat - 'A'.toNat + 10)
  else none

/-- A character given by `n` hexadecimal digits. -/
def takeCode (n : Nat) : Lex (List Char) := do
  let digits := (← get).rest.take n
  match digits.mapM hexValue? with
  | some ds =>
    if ds.length ≠ n then throw .badEscape
    let code := ds.foldl (fun a d => a * 16 + d) 0
    if (0xd800 ≤ code && code ≤ 0xdfff) || 0x10ffff < code then throw .badEscape
    skip n
    return [Char.ofNat code]
  | none => throw .badEscape

/-- What follows a backslash between double quotes. -/
def takeEscape : Lex (List Char) := do
  let c ← take
  match c with
  | ['0'] => return ['\x00']
  | ['a'] => return ['\x07']
  | ['b'] => return ['\x08']
  | ['t'] => return ['\t']
  | ['\t'] => return ['\t']
  | ['n'] => return ['\n']
  | ['v'] => return ['\x0b']
  | ['f'] => return ['\x0c']
  | ['r'] => return ['\r']
  | ['e'] => return ['\x1b']
  | [' '] => return [' ']
  | ['\x22'] => return ['\x22']
  | ['/'] => return ['/']
  | ['\\'] => return ['\\']
  | ['N'] => return ['\u0085']
  | ['_'] => return ['\u00a0']
  | ['L'] => return ['\u2028']
  | ['P'] => return ['\u2029']
  | ['x'] => takeCode 2
  | ['u'] => takeCode 4
  | ['U'] => takeCode 8
  | _ => throw .badEscape

/-- Text between quotes up to a blank, a line break or the end; the flag says that a line break was
escaped. -/
def takeQuotedWord (single : Bool) : (fuel : Nat) → List Char → Lex (List Char × Bool)
  | 0, text => return (text, false)
  | fuel + 1, text => do
    match (← get).rest with
    | [] => return (text, false)
    | c :: rest =>
      if isBlank c || isBreak c then return (text, false)
      else if single && c = '\x27' && rest.head? == some '\x27' then
        skip 2
        takeQuotedWord single fuel (text ++ ['\x27'])
      else if c = (if single then '\x27' else '\x22') then return (text, false)
      else if !single && c = '\\' then
        if (rest.head?.map isBreak).getD false then
          skip 1
          let _ ← takeBreak
          return (text, true)
        else
          skip 1
          let e ← takeEscape
          takeQuotedWord single fuel (text ++ e)
      else
        skip 1
        takeQuotedWord single fuel (text ++ [c])

/-- The rest of a quoted scalar. -/
def takeQuoted (single : Bool) : (fuel : Nat) → List Char → Lex (List Char)
  | 0, _ => throw .unclosedQuote
  | fuel + 1, text => do
    if ← atDocumentMark then throw .unclosedQuote
    if (← peek 0).isNone then throw .unclosedQuote
    let (text, escaped) ← takeQuotedWord single ((← get).rest.length + 1) text
    if (← peek 0) == some (if single then '\x27' else '\x22') then
      skip 1
      return text
    let gap ← takeGap (-1) ((← get).rest.length + 1) { broken := escaped }
    takeQuoted single fuel (text ++ gap.text)

/-- Whether plain text ends at `c`, with `next` after it. -/
def endsPlain (flow : Bool) (c : Char) (next : Option Char) : Bool :=
  (c == ':' &&
      match next with
      | some d => isBlank d || isBreak d
      | none => true) ||
    (flow && [',', '[', ']', '\x7b', '\x7d'].contains c)

/-- A word of plain text. -/
def takePlainWord (flow : Bool) : (fuel : Nat) → List Char → Lex (List Char)
  | 0, text => return text
  | fuel + 1, text => do
    match (← get).rest with
    | [] => return text
    | c :: rest =>
      if isBlank c || isBreak c then return text
      else if flow && c = ':' &&
          ([',', '?', '[', ']', '\x7b', '\x7d'].any fun d => rest.head? == some d) then
        throw .badPlainText
      else if endsPlain flow c rest.head? then return text
      else
        skip 1
        takePlainWord flow fuel (text ++ [c])

/-- Plain text; `gap` is what stands between it and the text so far. -/
def takePlain : (fuel : Nat) → (text : List Char) → Gap → Lex (List Char)
  | 0, text, _ => return text
  | fuel + 1, text, gap => do
    let finish : Lex (List Char) := do
      if gap.broken then allowKey true
      return text
    if ← atDocumentMark then finish
    else if (← peek 0) == some '#' then finish
    else
      let l ← get
      let word ← takePlainWord (l.flowLevel ≠ 0) (l.rest.length + 1) []
      if word.isEmpty then finish
      else
        let text := text ++ gap.text ++ word
        if ← test 0 false fun c => isBlank c || isBreak c then
          let limit := l.indent + 1
          let gap ← takeGap limit ((← get).rest.length + 1) {}
          let l ← get
          if l.flowLevel = 0 && (l.column : Int) < limit then
            if gap.broken then allowKey true
            return text
          takePlain fuel text gap
        else return text

/-- Line breaks and indentation before a line of a block scalar. With no indentation given, it is
that of the first line. -/
def takeBlockBreaks (indent : Nat) : (fuel : Nat) → (deepest : Nat) → List Char →
    Lex (Nat × List Char)
  | 0, _, breaks => return (indent, breaks)
  | fuel + 1, deepest, breaks => do
    let l ← get
    let room := if indent = 0 then l.rest.length else indent - l.column
    let spaces := ((l.rest.take room).takeWhile (· == ' ')).length
    skip spaces
    let l ← get
    let deepest := max deepest l.column
    if (indent = 0 || l.column < indent) && l.rest.head? == some '\t' then throw .tabInIndentation
    if ← test 0 false isBreak then
      let b ← takeBreak
      takeBlockBreaks indent fuel deepest (breaks ++ b)
    else
      let found := if indent = 0 then max 1 (max deepest (l.indent + 1).toNat) else indent
      return (found, breaks)

/-- The lines of a block scalar. `first` is the break after the line before, `more` are those of
empty lines, and `indented` says that the line before began with a blank. -/
def takeBlockLines (literal : Bool) (indent : Nat) :
    (fuel : Nat) → (text first more : List Char) → (indented : Bool) →
      Lex (List Char × List Char × List Char)
  | 0, text, first, more, _ => return (text, first, more)
  | fuel + 1, text, first, more, indented => do
    let l ← get
    if l.column ≠ indent || l.rest.isEmpty then return (text, first, more)
    let blank ← test 0 false isBlank
    let glue :=
      if !literal && first == ['\n'] && !indented && !blank then
        if more.isEmpty then [' '] else []
      else first
    let line ← takeWhile (!isBreak ·)
    let first ← if ← test 0 false isBreak then takeBreak else pure []
    let text := text ++ glue ++ more ++ line
    let (_, more) ← takeBlockBreaks indent ((← get).rest.length + 1) 0 []
    takeBlockLines literal indent fuel text first more blank

/-- What is kept of the line breaks at the end of a block scalar. -/
inductive Chomping where
  | strip
  | clip
  | keep
  deriving DecidableEq

def chomping? : Option Char → Option Chomping
  | some '+' => some .keep
  | some '-' => some .strip
  | _ => none

/-- A digit that tells the indentation. -/
def takeIncrement : Lex (Option Nat) := do
  match ← peek 0 with
  | some c =>
    if c = '0' then throw .badBlockHeader
    else if '1' ≤ c && c ≤ '9' then
      skip 1
      return some (c.toNat - '0'.toNat)
    else return none
  | none => return none

/-- The marks after the sign of a block scalar, in either order. -/
def takeBlockHeader : Lex (Chomping × Option Nat) := do
  match chomping? (← peek 0) with
  | some c =>
    skip 1
    return (c, ← takeIncrement)
  | none =>
    match ← takeIncrement with
    | some n =>
      match chomping? (← peek 0) with
      | some c =>
        skip 1
        return (c, some n)
      | none => return (.clip, some n)
    | none => return (.clip, none)

/-- A block scalar after its sign. -/
def takeBlock (literal : Bool) : Lex (List Char) := do
  let (chomping, increment) ← takeBlockHeader
  let _ ← takeWhile isBlank
  if (← peek 0) == some '#' then
    let _ ← takeWhile (!isBreak ·)
  unless ← test 0 true isBreak do throw .badBlockHeader
  if ← test 0 false isBreak then
    let _ ← takeBreak
  let l ← get
  let given :=
    match increment with
    | some n => (if l.indent ≥ 0 then l.indent.toNat else 0) + n
    | none => 0
  let fuel := l.rest.length + 1
  let (indent, breaks) ← takeBlockBreaks given fuel 0 []
  let (text, first, more) ← takeBlockLines literal indent fuel [] [] breaks false
  match chomping with
  | .strip => return text
  | .clip => return text ++ first
  | .keep => return text ++ first ++ more

/-! ## Anchors, tags and directives -/

def isNameChar (c : Char) : Bool :=
  c.isAlphanum || c == '_' || c == '-'

def takeAnchor : Lex String := do
  let name ← takeWhile isNameChar
  let ends ← test 0 true fun c =>
    isBlank c || isBreak c || ['?', ':', ',', ']', '\x7d', '%', '@', '\x60'].contains c
  if name.isEmpty || !ends then throw .badAnchor
  return String.ofList name

def isUriChar (verbatim : Bool) (c : Char) : Bool :=
  isNameChar c || [';', '/', '?', ':', '@', '&', '=', '+', '$', '.', '!', '~', '*', '\x27', '(', ')',
    '%'].contains c || (verbatim && [',', '[', ']'].contains c)

def takeTag : Lex Token := do
  let l ← get
  match l.rest with
  | '!' :: '<' :: _ =>
    skip 2
    let uri ← takeWhile (isUriChar true)
    unless (← peek 0) == some '>' && !uri.isEmpty do throw .badTag
    skip 1
    finish (.tag "" (String.ofList uri))
  | _ =>
    skip 1
    let name ← takeWhile isNameChar
    if (← peek 0) == some '!' then
      skip 1
      let suffix ← takeWhile (isUriChar false)
      if suffix.isEmpty then throw .badTag
      finish (.tag (String.ofList ('!' :: (name ++ ['!']))) (String.ofList suffix))
    else
      let more ← takeWhile (isUriChar false)
      let suffix := name ++ more
      finish (if suffix.isEmpty then .tag "" "!" else .tag "!" (String.ofList suffix))
where
  finish (t : Token) : Lex Token := do
    let comma := (← inFlow) && (← peek 0) == some ','
    unless comma || (← isBlankOrEnd 0) do throw .badTag
    return t

/-- Blanks and a comment up to the end of the line. -/
def takeRestOfLine : Lex Unit := do
  let _ ← takeWhile isBlank
  if (← peek 0) == some '#' then
    let _ ← takeWhile (!isBreak ·)
  unless ← test 0 true isBreak do throw .badDirective

def takeDirective : Lex Token := do
  skip 1
  let name ← takeWhile isNameChar
  unless ← isBlankOrEnd 0 do throw .badDirective
  let _ ← takeWhile isBlank
  if name == "YAML".toList then
    let version ← takeWhile fun c => c.isDigit || c == '.'
    unless version == "1.1".toList || version == "1.2".toList do throw .badDirective
    takeRestOfLine
    return .versionDirective
  else if name == "TAG".toList then
    let handle ← takeWhile fun c => isNameChar c || c == '!'
    let _ ← takeWhile isBlank
    let front ← takeWhile (isUriChar true)
    if handle.head? != some '!' || handle.getLast? != some '!' || front.isEmpty then
      throw .badDirective
    takeRestOfLine
    return .tagDirective (String.ofList handle) (String.ofList front)
  else throw .badDirective

/-! ## Fetching tokens -/

/-- Three signs that begin or end a document. -/
def fetchDocumentMark (t : Token) : Lex Unit := do
  closeBlocks (-1)
  dropKey
  allowKey false
  skip 3
  emit t

def fetchFlowStart (t : Token) : Lex Unit := do
  saveKey
  modify fun l => { l with flowLevel := l.flowLevel + 1, keys := none :: l.keys, keyAllowed := true }
  skip 1
  emit t

def fetchFlowEnd (t : Token) : Lex Unit := do
  dropKey
  modify fun l =>
    if l.flowLevel = 0 then { l with keyAllowed := false }
    else { l with flowLevel := l.flowLevel - 1, keys := l.keys.drop 1, keyAllowed := false }
  skip 1
  emit t

def fetchFlowEntry : Lex Unit := do
  dropKey
  allowKey true
  skip 1
  emit .flowEntry

def fetchBlockEntry : Lex Unit := do
  let l ← get
  if l.flowLevel = 0 then
    unless l.keyAllowed do throw .entryNotAllowed
    openBlock l.column l.tokens.size .blockSequenceStart
  dropKey
  allowKey true
  skip 1
  emit .blockEntry

def fetchKey : Lex Unit := do
  let l ← get
  if l.flowLevel = 0 then
    unless l.keyAllowed do throw .keyNotAllowed
    openBlock l.column l.tokens.size .blockMappingStart
  dropKey
  allowKey (l.flowLevel = 0)
  skip 1
  emit .key

def fetchValue : Lex Unit := do
  let l ← get
  match l.keys with
  | some k :: rest =>
    set { l with keys := none :: rest }
    insertAt k.token .key
    openBlock k.column k.token .blockMappingStart
    allowKey false
  | _ =>
    if l.flowLevel = 0 then
      unless l.keyAllowed do throw .valueNotAllowed
      openBlock l.column l.tokens.size .blockMappingStart
    allowKey (l.flowLevel = 0)
  skip 1
  emit .value

def fetchAlias (t : String → Token) : Lex Unit := do
  saveKey
  allowKey false
  skip 1
  emit (t (← takeAnchor))

def fetchBlockScalar (literal : Bool) : Lex Unit := do
  dropKey
  allowKey true
  skip 1
  emit (.scalar (String.ofList (← takeBlock literal)) (if literal then .literal else .folded))

def fetchQuoted (single : Bool) : Lex Unit := do
  saveKey
  allowKey false
  skip 1
  emit (.scalar (String.ofList (← takeQuoted single ((← get).rest.length + 1) [])) .quoted)

def fetchPlain : Lex Unit := do
  saveKey
  allowKey false
  emit (.scalar (String.ofList (← takePlain ((← get).rest.length + 1) [] {})) .plain)

/-- Signs that cannot begin plain text. -/
def indicators : List Char :=
  ['-', '?', ':', ',', '[', ']', '\x7b', '\x7d', '#', '&', '*', '!', '|', '>', '\x27', '\x22', '%',
    '@', '\x60']

def fetchNext (c : Char) : Lex Unit := do
  let l ← get
  let flow := l.flowLevel ≠ 0
  let spaced ← isBlankOrEnd 1
  if l.column = 0 && c = '%' then
    closeBlocks (-1)
    dropKey
    allowKey false
    emit (← takeDirective)
  else if ← atDocumentMark then fetchDocumentMark (if c = '-' then .documentStart else .documentEnd)
  else if c = '[' then fetchFlowStart .flowSequenceStart
  else if c = '\x7b' then fetchFlowStart .flowMappingStart
  else if c = ']' then fetchFlowEnd .flowSequenceEnd
  else if c = '\x7d' then fetchFlowEnd .flowMappingEnd
  else if c = ',' then fetchFlowEntry
  else if c = '-' && spaced then fetchBlockEntry
  else if c = '?' && (flow || spaced) then fetchKey
  else if c = ':' && (flow || spaced) then fetchValue
  else if c = '*' then fetchAlias .alias
  else if c = '&' then fetchAlias .anchor
  else if c = '!' then
    saveKey
    allowKey false
    emit (← takeTag)
  else if c = '|' && !flow then fetchBlockScalar true
  else if c = '>' && !flow then fetchBlockScalar false
  else if c = '\x27' then fetchQuoted true
  else if c = '\x22' then fetchQuoted false
  else if !(isBlank c || isBreak c || indicators.contains c) || (c = '-' && !(← test 1 false isBlank)) ||
      (!flow && (c = '?' || c = ':') && !spaced) then
    fetchPlain
  else throw .badCharacter

/-- Fetches tokens to the end of the text. -/
def fetchAll : (fuel : Nat) → Lex Unit
  | 0 => pure ()
  | fuel + 1 => do
    skipBlanks ((← get).rest.length + 1)
    dropStaleKeys
    closeBlocks (← get).column
    match (← get).rest with
    | [] =>
      closeBlocks (-1)
      dropKey
      emit .streamEnd
    | c :: _ =>
      fetchNext c
      fetchAll fuel

end Lex

/-- The tokens of a text. -/
def tokens (s : String) : Except Invalid (List Token) := do
  let text :=
    match s.toList with
    | '\uFEFF' :: rest => rest
    | text => text
  unless text.all isAllowed do throw .controlCharacter
  let (_, l) ← (Lex.fetchAll (text.length + 2)).run { rest := text }
  return l.tokens.toList

end Codemod.Yaml
