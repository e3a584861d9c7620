import Codemod.Failure
import Codemod.Format.Matcher
import Codemod.Json.Layout
import Codemod.Json.Reader
import Codemod.Markup.Printer
import Codemod.Markup.Reader
import Codemod.Source.Unit
import Codemod.Text.Lines

/-!
# Document formats

Four kinds of documents, each read into nodes of its own type. A format remembers from reading a
document what writing it needs.

## Main definitions

* `Kind` — the kinds of documents, and the type of node each is read into.
* `Format` — a kind with its settings and its memory.
* `Format.parse`, `Format.render` — reading and writing a document.
* `Format.serialize` — writing with a writer that can fail.
-/

namespace Codemod

inductive Kind where
  | text
  | json
  | markup
  | code
  deriving DecidableEq, Inhabited

namespace Kind

def name : Kind → String
  | text => "text"
  | json => "json"
  | markup => "markup"
  | code => "code"

/-- What documents are read into. -/
abbrev Node : Kind → Type
  | text => List String
  | json => Json
  | markup => Markup.Tree
  | code => SourceUnit

/-- What can be set: the unit of indentation where a document shows none, the element that fragments
stand in, the languages of sources. -/
abbrev Settings : Kind → Type
  | text => Unit
  | json => String
  | markup => String
  | code => Source.Languages

/-- What is remembered: the layout of the latest document, the latest unit of each path. -/
abbrev Memory : Kind → Type
  | text => LineEnding
  | json => Json.Layout
  | markup => Unit
  | code => List SourceUnit

/-- What writing looks at: the layout of the latest document. -/
abbrev Layout : Kind → Type
  | text => LineEnding
  | json => Json.Layout
  | markup => Unit
  | code => Unit

end Kind

structure Format (k : Kind) where
  matcher : Matcher
  settings : k.Settings
  memory : k.Memory

namespace Format

def text (matcher : Matcher := .text) : Format .text :=
  { matcher, settings := (), memory := .lf }

def json (unit : String := "  ") (matcher : Matcher := .json) : Format .json :=
  { matcher, settings := unit, memory := { unit, eol := .lf } }

def markup (context : String := "div") (matcher : Matcher := .markup) : Format .markup :=
  { matcher, settings := context, memory := () }

def code (matcher : Matcher := .code) (languages : Source.Languages := .standard) :
    Format .code :=
  { matcher, settings := languages, memory := [] }

/-- Whether the format claims a path. -/
def supports (f : Format k) (path : String) : Bool :=
  f.matcher.claims path

/-- Keeps a unit, in the place of an earlier one of the same path. -/
def keepUnit (u : SourceUnit) : List SourceUnit → List SourceUnit
  | [] => [u]
  | v :: rest => if v.path = u.path then u :: rest else v :: keepUnit u rest

/-- What is remembered from reading `src`. -/
def remember : {k : Kind} → k.Settings → k.Memory → (path src : String) → k.Memory
  | .text, _, _, _, src => LineEnding.detect src.toList
  | .json, unit, _, _, src => Json.Layout.detect unit src
  | .markup, _, _, _, _ => ()
  | .code, languages, units, path, src => keepUnit (.parse languages path src) units

/-- The node of `src`. -/
def readNode : {k : Kind} → k.Settings → (path src : String) → Except Failure k.Node
  | .text, _, _, src => .ok (Lines.parse (LineEnding.detect src.toList) src)
  | .json, _, path, src =>
    match Json.parse src with
    | .ok v => .ok v
    | .error message => .error (.parse path Kind.json.name message)
  | .markup, context, _, src => .ok (Markup.Tree.parse context src)
  | .code, languages, path, src => .ok (.parse languages path src)

/-- Reads a document. What is to be remembered is so also when the document cannot be read. -/
def parse (f : Format k) (path src : String) : Except Failure k.Node × Format k :=
  (readNode f.settings path src, { f with memory := remember f.settings f.memory path src })

/-- The layout that is remembered. -/
def layout : {k : Kind} → Format k → k.Layout
  | .text, f => f.memory
  | .json, f => f.memory
  | .markup, _ => ()
  | .code, _ => ()

/-- The text of a node. -/
def renderWith : {k : Kind} → k.Layout → k.Node → String
  | .text, eol, lines => Lines.render eol lines
  | .json, layout, v => layout.render v
  | .markup, _, tree => tree.render
  | .code, _, unit => unit.text

/-- Writes a document as the formats here do. -/
def render (f : Format k) (node : k.Node) : String :=
  renderWith f.layout node

/-- Forgets what belongs to an earlier run. -/
def reset : {k : Kind} → Format k → Format k
  | .code, f => { f with memory := [] }
  | .text, f => f
  | .json, f => f
  | .markup, f => f

end Format

/-- What writes the nodes of a kind: their text, or what is said if there is none. -/
abbrev Writer (k : Kind) := k.Layout → (path : String) → k.Node → Except String String

/-- The writer of the formats here, which has a text for every node. -/
def Writer.standard : Writer k := fun layout _ node =>
  .ok (Format.renderWith layout node)

/-- Writes a document. -/
def Format.serialize (f : Format k) (w : Writer k) (path : String) (node : k.Node) :
    Except Failure String :=
  (w f.layout path node).mapError (.serialize path k.name)

end Codemod
