import Codemod.Source.Grammar.Expressions

/-!
# Statements

How statements and declarations are written. A word is a name wherever it cannot begin a statement
of its own.
-/

namespace Codemod.Source.Grammar

/-! ## Variables -/

def declarator (fuel : Nat) : Grammar Unit := do
  pattern
  optional (eatSign "!")
  optional (typed fuel)
  optional (eatSign "=" *> assign fuel)

def declarators (fuel : Nat) : Grammar Unit :=
  separated "," (declarator fuel) fuel

/-- The word that begins a declaration of variables. -/
def variableWord : Grammar Unit :=
  eat "var" <|> eat "let" <|> eat "const"

/-! ## Imports and exports -/

/-- Attributes of an import. -/
def importAttributes : Grammar Unit :=
  optional do
    require (← sameLine)
    eat "with" <|> eat "assert"
    bracket "\x7b" .object

def fromModule : Grammar Unit := do
  eat "from"
  literal .string
  importAttributes

/-- A name that is imported or exported; it may be a string. -/
def moduleName : Grammar Unit :=
  discard word <|> literal .string

/-- A name in the braces of an import or an export. -/
def specifier : Grammar Unit :=
  (do
    eat "type" <|> eat "typeof"
    moduleName
    optional (eat "as" *> moduleName)
    require ((← atEnd) || (← aheadSign ",")))
  <|> do
    moduleName
    optional (eat "as" *> moduleName)

/-- Names in braces, or everything under one name. -/
def importBindings : Grammar Unit :=
  bracket "\x7b" .specifiers <|> do
    eatSign "*"
    eat "as"
    discard word

/-- What is imported, up to the end of the statement. -/
def importClause : Grammar Unit := do
  importBindings <|> do
    let _ ← word
    optional (eatSign "," *> importBindings)
  fromModule

/-- Another name for a module or a part of one. -/
def importAlias (fuel : Nat) : Grammar Unit := do
  let _ ← word
  eatSign "="
  (eat "require" *> bracket "(" .arguments) <|> dottedName fuel

/-- An import after its first word. -/
def importRest (fuel : Nat) : Grammar Unit := do
  (literal .string *> importAttributes)
    <|> ((eat "type" <|> eat "typeof") *> (importClause <|> importAlias fuel))
    <|> importClause
    <|> importAlias fuel
  endOfStatement

/-! ## Declarations -/

/-- A function after its first word, maybe without a body. -/
def functionDeclaration (fuel : Nat) : Grammar Unit := do
  optional (eatSign "*")
  (do
    let _ ← word
    functionRest fuel
    bracket "\x7b" .statements <|> endOfStatement)
  <|> do
    functionRest fuel
    bracket "\x7b" .statements

def interfaceRest (fuel : Nat) : Grammar Unit := do
  let _ ← word
  optional (typeParameters fuel)
  optional (eat "extends" *> separated "," (typeOf fuel) fuel)
  bracket "\x7b" .typeBody

def enumRest : Grammar Unit := do
  let _ ← word
  bracket "\x7b" .enumBody

def typeAlias (fuel : Nat) : Grammar Unit := do
  eat "type"
  let _ ← word
  optional (typeParameters fuel)
  eatSign "="
  typeOf fuel
  endOfStatement

def namespacePhrase (fuel : Nat) : Grammar Unit := do
  eat "namespace" <|> eat "module"
  require (← sameLine)
  literal .string <|> dottedName fuel
  bracket "\x7b" .statements <|> endOfStatement

/-- A declaration. -/
def declaration : (fuel : Nat) → Grammar Unit
  | 0 => failure
  | fuel + 1 =>
    (eat "const" *> eat "enum" *> enumRest)
    <|> (do
      variableWord
      declarators fuel
      endOfStatement)
    <|> (eat "function" *> functionDeclaration fuel)
    <|> (do
      eat "async"
      require (← sameLine)
      eat "function"
      functionDeclaration fuel)
    <|> (do
      optional (eat "abstract")
      eat "class"
      classPhrase fuel)
    <|> (eat "interface" *> interfaceRest fuel)
    <|> (eat "enum" *> enumRest)
    <|> typeAlias fuel
    <|> namespacePhrase fuel
    <|> (do
      eat "declare"
      require (← sameLine)
      (eat "global" *> bracket "\x7b" .statements) <|> declaration fuel)
    <|> (do
      eat "import"
      importAlias fuel
      endOfStatement)
    <|> (do
      decorator fuel
      declaration fuel)

/-- An export after its first word. -/
def exportRest (fuel : Nat) : Grammar Unit :=
  declaration fuel
  <|> (do
    optional (eat "type")
    eatSign "*"
    optional (eat "as" *> moduleName)
    fromModule
    endOfStatement)
  <|> (do
    optional (eat "type")
    bracket "\x7b" .specifiers
    optional fromModule
    endOfStatement)
  <|> (do
    eat "default"
    declaration fuel <|> (expression fuel *> endOfStatement))
  <|> (do
    eatSign "="
    expression fuel
    endOfStatement)
  <|> (do
    eat "as"
    eat "namespace"
    let _ ← word
    endOfStatement)

/-! ## Statements -/

/-- Words that are no names at the beginning of a statement. -/
def statementWords : List String :=
  ["var", "const", "if", "for", "while", "with", "do", "switch", "try", "return", "throw", "break",
    "continue", "debugger", "interface", "enum", "abstract", "export", "import"]

def expressionStatement (fuel : Nat) : Grammar Unit := do
  match ← peek with
  | some (.leaf t) => require (t.kind ≠ .word || !statementWords.contains t.text || t.text = "import")
  | _ => pure ()
  expression fuel
  endOfStatement

/-- A label that is jumped to. -/
def jumpRest : Grammar Unit := do
  optional do
    require (← sameLine)
    discard word
  endOfStatement

/-- Whether a tree goes on with an expression. -/
def isContinuation (t : Tree) : Bool :=
  t.isSign "." || t.isSign "?." || infixSigns.any t.isSign || assignmentSigns.any t.isSign

mutual

def statement : (fuel : Nat) → Grammar Unit
  | 0 => failure
  | fuel + 1 => do
    match ← peek with
    | some (.leaf t) =>
      if t.isSign ";" then skip
      else if t.kind = .word then wordStatement t.text fuel
      else declaration fuel <|> (decorators fuel *> statement fuel) <|> expressionStatement fuel
    | some (.group _ _ _) =>
      -- a block that an object can also be
      (do
        bracket "\x7b" .block
        require ((← atEnd) || !(← sameLine) || !(← nextIs isContinuation)))
      <|> expressionStatement fuel
    | none => failure

/-- Decorators in front of an export. -/
def decorators : (fuel : Nat) → Grammar Unit
  | 0 => failure
  | fuel + 1 => do
    decorator fuel
    many (decorator fuel) fuel
    require (← ahead "export")

/-- A statement that begins with the word `w`. -/
def wordStatement (w : String) : (fuel : Nat) → Grammar Unit
  | 0 => failure
  | fuel + 1 =>
    match w with
    | "if" => do
      skip
      bracket "(" .expression
      statement fuel
      if ← ahead "else" then
        skip
        statement fuel
    | "for" => do
      skip
      optional (eat "await")
      bracket "(" .forHead
      statement fuel
    | "while" | "with" => do
      skip
      bracket "(" .expression
      statement fuel
    | "do" => do
      skip
      statement fuel
      eat "while"
      bracket "(" .expression
      optional (eatSign ";")
    | "switch" => do
      skip
      bracket "(" .expression
      bracket "\x7b" .cases
    | "try" => do
      skip
      bracket "\x7b" .statements
      if ← ahead "catch" then
        skip
        optional (bracket "(" .parameters)
        bracket "\x7b" .statements
      if ← ahead "finally" then
        skip
        bracket "\x7b" .statements
    | "return" => do
      skip
      optional do
        require (← sameLine)
        expression fuel
      endOfStatement
    | "throw" => do
      skip
      expression fuel
      endOfStatement
    | "break" | "continue" => skip *> jumpRest
    | "debugger" => skip *> endOfStatement
    | "export" => skip *> exportRest fuel
    | "import" => (skip *> importRest fuel) <|> expressionStatement fuel
    | _ => declaration fuel <|> label fuel <|> expressionStatement fuel

/-- A statement with a label. -/
def label : (fuel : Nat) → Grammar Unit
  | 0 => failure
  | fuel + 1 => do
    let _ ← word
    eatSign ":"
    statement fuel

end

/-- Statements to the end. -/
def statements : (fuel : Nat) → Grammar Unit
  | 0 => failure
  | fuel + 1 => do
    if ← atEnd then return
    statement (fuel + 1)
    statements fuel

/-! ## What stands in brackets -/

/-- The cases of a choice: a value and the statements for it. Before the first case, where `begun`
is false, no statement stands. -/
def cases (begun : Bool) : (fuel : Nat) → Grammar Unit
  | 0 => failure
  | fuel + 1 => do
    if ← atEnd then return
    if ← ahead "case" then
      skip
      expression (fuel + 1)
      eatSign ":"
    else if ← ahead "default" then
      skip
      eatSign ":"
    else
      require begun
      statement (fuel + 1)
    cases true fuel

/-- What a loop goes over, or how it begins, goes on and steps. -/
def forHead (fuel : Nat) : Grammar Unit :=
  (do
    variableWord
    pattern
    optional (typed fuel)
    eat "of" <|> eat "in"
    expression fuel
    require (← atEnd))
  <|> (do
    target fuel
    eat "of" <|> eat "in"
    expression fuel
    require (← atEnd))
  <|> do
    (variableWord *> declarators fuel) <|> optional (expression fuel)
    eatSign ";"
    optional (expression fuel)
    eatSign ";"
    optional (expression fuel)

end Codemod.Source.Grammar
