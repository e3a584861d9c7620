import Codemod.Source.Node

/-!
# Import statements

The statements at the top of a syntax tree that import from a module, with where they and the
module's name stand.

## Main definitions

* `Import` — an import statement.
* `slice?` — the text of a range.
* `Node.imports` — the imports at the top of a tree.
-/

namespace Codemod.Source

structure Import where
  /-- What stands between the quotes. -/
  moduleName : String
  moduleSpan : Span
  statementSpan : Span
  /-- The imported names that stand in braces. -/
  named : List String
  deriving DecidableEq, Inhabited

/-! ## Ranges of a text -/

/-- Splits a text after `n` bytes, if a character ends there. -/
def splitAt? : (n : Nat) → List Char → Option (List Char × List Char)
  | 0, s => some ([], s)
  | _ + 1, [] => none
  | n + 1, c :: s =>
    if c.utf8Size ≤ n + 1 then
      (splitAt? (n + 1 - c.utf8Size) s).map fun (front, back) => (c :: front, back)
    else none
termination_by _ s => s.length

/-- The text of a range, if it is one of whole characters. -/
def slice? (text : String) (r : Span) : Option String :=
  if r.start ≤ r.stop then
    match splitAt? r.start text.toList with
    | some (_, back) => (splitAt? r.size back).map fun (s, _) => String.ofList s
    | none => none
  else none

/-- A range whose text was asked for although it is none of whole characters. The program stops
there. -/
structure Cut where
  span : Span
  deriving DecidableEq, Inhabited

/-- The text of a range that is taken to be one of whole characters. -/
def slice (text : String) (r : Span) : Except Cut String :=
  match slice? text r with
  | some s => .ok s
  | none => .error ⟨r⟩

/-! ## Imports -/

/-- The names that are imported somewhere below a node, in order. What stands in a string does not
count. -/
def Node.importedNames (text : String) : Node → Except Cut (List String)
  | ⟨_, _, _, _, children⟩ => below children
where
  below : List Node → Except Cut (List String)
    | [] => .ok []
    | n :: rest =>
      let here : Except Cut (List String) :=
        if n.kind = "import_specifier" then
          match n.child? "name" with
          | some name => (slice text name.span).map ([·])
          | none => .ok []
        else if n.kind = "string" then .ok []
        else n.importedNames text
      do return (← here) ++ (← below rest)

/-- The import of a statement, if it names a module in quotes. The quotes are taken to be the first
and the last byte of the name's node. -/
def importOf? (text : String) (statement : Node) : Except Cut (Option Import) :=
  match statement.child? "source" with
  | none => .ok none
  | some source =>
    if source.span.size < 2 then .ok none
    else do
      let moduleSpan : Span := ⟨source.span.start + 1, source.span.stop - 1⟩
      let named ← statement.importedNames text
      let moduleName ← slice text moduleSpan
      return some { moduleName, moduleSpan, statementSpan := statement.span, named }

/-- The imports of statements, in order. -/
def importsOf (text : String) : List Node → Except Cut (List Import)
  | [] => .ok []
  | n :: rest => do
    let found ← importOf? text n
    return found.toList ++ (← importsOf text rest)

/-- The imports at the top of a tree. -/
def Node.imports (text : String) (root : Node) : Except Cut (List Import) :=
  importsOf text (root.children.filter (·.kind = "import_statement"))

end Codemod.Source
