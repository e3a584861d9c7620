import Codemod.Markup.Reference

/-!
# Cutting markup into tokens

The lexer hands out the tokens of a source a few at a time, because what follows a start tag
depends on what the element is: `Lexer.content` is set from outside.

## Main definitions

* `Lexer` — what is left of a source and how to take it.
* `Lexer.next` — the next tokens.
-/

namespace Codemod.Markup

/-! ## Runs of text -/

/-- Cuts characters into runs of blanks and of others, and NUL characters. -/
def textTokens (s : List Char) : List Token :=
  match s with
  | [] => []
  | c :: s =>
    if c = '\x00' then .nul :: textTokens s
    else
      let blank := isSpace c
      let same (d : Char) := d ≠ '\x00' && isSpace d == blank
      .text (String.ofList (c :: s.takeWhile same)) blank :: textTokens (s.dropWhile same)
termination_by s.length
decreasing_by
  · simp
  · have := List.Sublist.length_le (List.dropWhile_sublist (l := s) fun d => d ≠ '\x00' && isSpace d == isSpace c)
    simp only [List.length_cons]
    exact Nat.lt_succ_of_le this

/-- Text with character references. -/
def decodeFrom : (skip : Nat) → List Char → List Char
  | _, [] => []
  | skip + 1, _ :: s => decodeFrom skip s
  | 0, c :: s =>
    if c = '&' then
      match Reference.read false s with
      | some (cs, n) => cs ++ decodeFrom n s
      | none => c :: decodeFrom 0 s
    else c :: decodeFrom 0 s

/-! ## Tags -/

/-- What is taken from the front of a source, and the rest of it. -/
abbrev Taken (α : Type) := Option (α × List Char)

def endsTagName (c : Char) : Bool :=
  isSpace c || c == '/' || c == '>'

/-- A tag's name, up to a blank, a slash or the end of the tag. -/
def takeTagName (s : List Char) : List Char × List Char :=
  (lower ((s.takeWhile (!endsTagName ·)).map mend), s.dropWhile (!endsTagName ·))

/-- An attribute's value up to its end, with references replaced; the first `skip` characters are
done with. The end itself is left in place. -/
def takeValue (ends : Char → Bool) : (skip : Nat) → List Char → Taken (List Char)
  | _, [] => none
  | skip + 1, _ :: s => takeValue ends skip s
  | 0, c :: s =>
    if ends c then some ([], c :: s)
    else if c = '&' then
      match Reference.read true s with
      | some (cs, n) => (takeValue ends n s).map fun (v, rest) => (cs ++ v, rest)
      | none => (takeValue ends 0 s).map fun (v, rest) => (c :: v, rest)
    else (takeValue ends 0 s).map fun (v, rest) => (mend c :: v, rest)

/-- What follows an attribute's equals sign. -/
def takeValueAfterEquals (s : List Char) : Taken (List Char) :=
  match s.dropWhile isSpace with
  | [] => none
  | c :: rest =>
    if c = '\x22' || c = '\x27' then
      (takeValue (· == c) 0 rest).map fun (v, rest) => (v, rest.drop 1)
    else if c = '>' then some ([], c :: rest)
    else takeValue (fun d => isSpace d || d == '>') 0 (c :: rest)

def endsAttributeName (c : Char) : Bool :=
  endsTagName c || c == '='

/-- Adds an attribute unless there is one of its name. -/
def addAttribute (attributes : TagAttributes) (name value : List Char) : TagAttributes :=
  let a : Attribute := { name := String.ofList (lower name), value := String.ofList value }
  if h : attributes.list.any (·.name = a.name) then attributes
  else
    { list := attributes.list ++ [a]
      distinct := by
        rw [List.map_append, List.nodup_append]
        refine ⟨attributes.distinct, by simp, fun k hk k' hk' heq => h ?_⟩
        obtain ⟨b, hb, rfl⟩ := List.mem_map.mp hk
        obtain rfl : k' = a.key := by simpa using hk'
        exact List.any_eq_true.mpr ⟨b, hb, by simpa using (Prod.mk.inj heq).2⟩
      plain := List.forall_mem_append.mpr ⟨attributes.plain, by simp [a]⟩
      lowered := List.forall_mem_append.mpr ⟨attributes.lowered, by simp [a, lower_lower]⟩ }

/-- The attributes of a tag, whether it closes itself, and what follows it; nothing if the source
ends inside it. -/
def takeAttributes : (fuel : Nat) → TagAttributes → List Char → Taken (TagAttributes × Bool)
  | 0, _, _ => none
  | fuel + 1, attributes, s =>
    match s.dropWhile isSpace with
    | [] => none
    | '>' :: rest => some ((attributes, false), rest)
    | '/' :: '>' :: rest => some ((attributes, true), rest)
    | '/' :: rest => takeAttributes fuel attributes rest
    | c :: rest =>
      let name := mend c :: (rest.takeWhile (!endsAttributeName ·)).map mend
      let rest := rest.dropWhile (!endsAttributeName ·)
      match rest.dropWhile isSpace with
      | [] => none
      | '=' :: rest =>
        match takeValueAfterEquals rest with
        | some (value, rest) => takeAttributes fuel (addAttribute attributes name value) rest
        | none => none
      | rest => takeAttributes fuel (addAttribute attributes name []) rest

/-- A tag whose name begins `s`. -/
def takeTag (s : List Char) : Taken Tag :=
  let (name, rest) := takeTagName s
  (takeAttributes (rest.length + 1) ∅ rest).map fun ((attributes, selfClosing), rest) =>
    ({ name := String.ofList name, attributes, selfClosing }, rest)

/-! ## Comments -/

/-- How far the end of a comment has been seen. -/
inductive CommentPhase where
  | start
  | startDash
  | inside
  | dash
  | dashDash
  | bang

/-- The text of a comment and what follows it. -/
def takeComment : CommentPhase → List Char → List Char × List Char
  | _, [] => ([], [])
  | .start, c :: s =>
    if c = '-' then takeComment .startDash s
    else if c = '>' then ([], s)
    else keep [mend c] (takeComment .inside s)
  | .startDash, c :: s =>
    if c = '-' then takeComment .dashDash s
    else if c = '>' then ([], s)
    else keep ['-', mend c] (takeComment .inside s)
  | .inside, c :: s =>
    if c = '-' then takeComment .dash s else keep [mend c] (takeComment .inside s)
  | .dash, c :: s =>
    if c = '-' then takeComment .dashDash s else keep ['-', mend c] (takeComment .inside s)
  | .dashDash, c :: s =>
    if c = '>' then ([], s)
    else if c = '!' then takeComment .bang s
    else if c = '-' then keep ['-'] (takeComment .dashDash s)
    else keep ['-', '-', mend c] (takeComment .inside s)
  | .bang, c :: s =>
    if c = '>' then ([], s)
    else if c = '-' then keep ['-', '-', '!'] (takeComment .dash s)
    else keep ['-', '-', '!', mend c] (takeComment .inside s)
where
  keep (front : List Char) : List Char × List Char → List Char × List Char
    | (text, rest) => (front ++ text, rest)

/-- Text up to the next `>`, which is dropped. -/
def takeBogus (s : List Char) : List Char × List Char :=
  ((s.takeWhile (· != '>')).map mend, (s.dropWhile (· != '>')).drop 1)

/-! ## Document types -/

def startsWithWord (word s : List Char) : Bool :=
  lower (s.take word.length) == word

/-- Skips to the end of a declaration. -/
def finishDoctype (d : Doctype) (s : List Char) : Doctype × List Char :=
  (d, (s.dropWhile (· != '>')).drop 1)

/-- What stands between quotes, up to the quote, the end of the declaration or the end of the
source. -/
def takeQuoted (quote : Char) (s : List Char) : List Char × List Char :=
  let inside (c : Char) := c != quote && c != '>'
  ((s.takeWhile inside).map mend, s.dropWhile inside)

/-- After the system identifier. -/
def afterSystemId (d : Doctype) (s : List Char) : Doctype × List Char :=
  match s.dropWhile isSpace with
  | [] => ({ d with broken := true }, [])
  | rest => finishDoctype d rest

/-- At the opening quote of the system identifier. -/
def systemIdFrom (d : Doctype) (quote : Char) (s : List Char) : Doctype × List Char :=
  let (id, rest) := takeQuoted quote s
  let d := { d with systemId := some id }
  match rest with
  | [] => ({ d with broken := true }, [])
  | c :: rest => if c = quote then afterSystemId d rest else ({ d with broken := true }, rest)

/-- Before the system identifier; it may be missing only after a public one. -/
def beforeSystemId (d : Doctype) (required : Bool) (s : List Char) : Doctype × List Char :=
  match s.dropWhile isSpace with
  | [] => ({ d with broken := true }, [])
  | c :: rest =>
    if c = '>' then ({ d with broken := d.broken || required }, rest)
    else if c = '\x22' || c = '\x27' then systemIdFrom d c rest
    else finishDoctype { d with broken := true } (c :: rest)

/-- Before the public identifier. -/
def beforePublicId (d : Doctype) (s : List Char) : Doctype × List Char :=
  match s.dropWhile isSpace with
  | [] => ({ d with broken := true }, [])
  | c :: rest =>
    if c = '>' then ({ d with broken := true }, rest)
    else if c = '\x22' || c = '\x27' then
      let (id, rest) := takeQuoted c rest
      let d := { d with publicId := some id }
      match rest with
      | [] => ({ d with broken := true }, [])
      | q :: rest => if q = c then beforeSystemId d false rest else ({ d with broken := true }, rest)
    else finishDoctype { d with broken := true } (c :: rest)

/-- After the name. -/
def afterDoctypeName (d : Doctype) (s : List Char) : Doctype × List Char :=
  match s.dropWhile isSpace with
  | [] => ({ d with broken := true }, [])
  | '>' :: rest => (d, rest)
  | rest =>
    if startsWithWord "public".toList rest then beforePublicId d (rest.drop 6)
    else if startsWithWord "system".toList rest then beforeSystemId d true (rest.drop 6)
    else finishDoctype { d with broken := true } rest

/-- A document type declaration, after its keyword. -/
def takeDoctype (s : List Char) : Doctype × List Char :=
  match s.dropWhile isSpace with
  | [] => ({ broken := true }, [])
  | '>' :: rest => ({ broken := true }, rest)
  | rest =>
    let inside (c : Char) := !isSpace c && c != '>'
    let d : Doctype := { name := some (lower ((rest.takeWhile inside).map mend)) }
    afterDoctypeName d (rest.dropWhile inside)

/-! ## Content that is not markup -/

/-- Whether `s` begins with `name`, in any case, and then something that ends a tag's name. -/
def closesWith (name : List Char) (s : List Char) : Bool :=
  startsWithWord name s &&
    match s.drop name.length with
    | c :: _ => endsTagName c
    | [] => false

/-- Whether an end tag for `name` begins `s`. -/
def atEndTag (name? : Option String) : List Char → Bool
  | '<' :: '/' :: s =>
    match name? with
    | some name => closesWith name.toList s
    | none => false
  | _ => false

/-- Text up to the end tag of `name?`, which stays. -/
def takeUntilEndTag (name? : Option String) : List Char → List Char × List Char
  | [] => ([], [])
  | c :: s =>
    if atEndTag name? (c :: s) then ([], c :: s)
    else
      let (text, rest) := takeUntilEndTag name? s
      (c :: text, rest)

/-- Where in a script the lexer is. In an escaped part, between `<!--` and `-->`, a script element
inside hides one end tag. -/
inductive ScriptPhase where
  | plain
  | escaped
  | doubleEscaped
  deriving DecidableEq

/-- The text of a script up to its end tag, which stays. The first `skip` characters belong to a
mark that has been recognised; `dashes` says that the last characters were `--`. -/
def takeScript (name? : Option String) :
    (skip : Nat) → ScriptPhase → (dashes : Nat) → List Char → List Char × List Char
  | _, _, _, [] => ([], [])
  | skip + 1, phase, dashes, c :: s =>
    let (text, rest) := takeScript name? skip phase (if c = '-' then dashes + 1 else 0) s
    (c :: text, rest)
  | 0, phase, dashes, c :: s =>
    if phase ≠ .doubleEscaped && atEndTag name? (c :: s) then ([], c :: s)
    else
      let (skip, phase, dashes) : Nat × ScriptPhase × Nat :=
        match phase with
        | .plain => if (c :: s).take 4 == "<!--".toList then (3, .escaped, 0) else (0, .plain, 0)
        | .escaped =>
          if c = '-' then (0, .escaped, dashes + 1)
          else if c = '>' && dashes ≥ 2 then (0, .plain, 0)
          else if c = '<' && closesWith "script".toList s then (7, .doubleEscaped, 0)
          else (0, .escaped, 0)
        | .doubleEscaped =>
          if c = '-' then (0, .doubleEscaped, dashes + 1)
          else if c = '>' && dashes ≥ 2 then (0, .plain, 0)
          else if (c :: s).take 2 == "</".toList && closesWith "script".toList (s.drop 1) then
            (8, .escaped, 0)
          else (0, .doubleEscaped, 0)
      let (text, rest) := takeScript name? skip phase dashes s
      (c :: text, rest)

/-! ## The lexer -/

structure Lexer where
  content : Content
  /-- The name of the last start tag, which an end tag has to match where text is not markup. -/
  lastStart : Option String
  rest : List Char
  deriving Inhabited

/-- Line breaks of either kind become `\n`. -/
def normalizeBreaks : List Char → List Char
  | [] => []
  | '\r' :: '\n' :: s => '\n' :: normalizeBreaks s
  | '\r' :: s => '\n' :: normalizeBreaks s
  | c :: s => c :: normalizeBreaks s

/-- A leading byte order mark is not part of the source. -/
def dropMark : List Char → List Char
  | '\uFEFF' :: s => s
  | s => s

def Lexer.ofSource (content : Content) (s : String) : Lexer :=
  { content, lastStart := none, rest := normalizeBreaks (dropMark s.toList) }

namespace Lexer

/-- Hands out tokens and goes on with `rest`. -/
def give (l : Lexer) (tokens : List Token) (rest : List Char) : List Token × Lexer :=
  (tokens, { l with rest })

/-- At an end tag that is to be taken as one. -/
def endTag (l : Lexer) (s : List Char) : List Token × Lexer :=
  match takeTag s with
  | some (tag, rest) => ([.endTag tag.name], { l with content := .data, rest })
  | none => ([], { l with rest := [] })

/-- After `<!`. Marked sections exist only where `sections` allows them. -/
def declaration (l : Lexer) (sections : Bool) (s : List Char) : List Token × Lexer :=
  if s.take 2 == "--".toList then
    let (text, rest) := takeComment .start (s.drop 2)
    l.give [.comment (String.ofList text)] rest
  else if startsWithWord "doctype".toList s then
    let (d, rest) := takeDoctype (s.drop 7)
    l.give [.doctype d] rest
  else if sections && s.take 7 == "[CDATA[".toList then
    let (text, rest) := takeSection (s.drop 7)
    l.give (textTokens text) rest
  else
    let (text, rest) := takeBogus s
    l.give [.comment (String.ofList text)] rest
where
  /-- The text of a marked section. -/
  takeSection : List Char → List Char × List Char
    | [] => ([], [])
    | ']' :: ']' :: '>' :: s => ([], s)
    | c :: s =>
      let (text, rest) := takeSection s
      (c :: text, rest)

/-- At a `<` in markup; `s` follows it. -/
def markup (l : Lexer) (sections : Bool) (s : List Char) : List Token × Lexer :=
  match s with
  | '!' :: rest => l.declaration sections rest
  | '?' :: _ =>
    let (text, rest) := takeBogus s
    l.give [.comment (String.ofList text)] rest
  | '/' :: rest =>
    match rest with
    | [] => l.give (textTokens ['<', '/']) []
    | '>' :: rest => l.give [] rest
    | c :: _ =>
      if isLetter c then l.endTag rest
      else
        let (text, rest) := takeBogus rest
        l.give [.comment (String.ofList text)] rest
  | c :: _ =>
    if isLetter c then
      match takeTag s with
      | some (tag, rest) => ([.startTag tag], { l with lastStart := some tag.name, rest })
      | none => l.give [] []
    else l.give (textTokens ['<']) s
  | [] => l.give (textTokens ['<']) []

/-- The next tokens; none only if there is nothing left or the last tag was cut off. -/
def next (l : Lexer) (sections : Bool) : List Token × Lexer :=
  match l.content with
  | .plaintext => l.give (textTokens (l.rest.map mend)) []
  | .data =>
    match l.rest with
    | '<' :: s => l.markup sections s
    | s =>
      let text := s.takeWhile (· != '<')
      l.give (textTokens (decodeFrom 0 text)) (s.dropWhile (· != '<'))
  | content =>
    if atEndTag l.lastStart l.rest then l.endTag (l.rest.drop 2)
    else
      let (text, rest) :=
        if content = .script then takeScript l.lastStart 0 .plain 0 l.rest
        else takeUntilEndTag l.lastStart l.rest
      let text := text.map mend
      l.give (textTokens (if content = .rcdata then decodeFrom 0 text else text)) rest

end Lexer

end Codemod.Markup
