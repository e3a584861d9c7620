import Codemod.Pattern.Reader
import Codemod.Text.Search

/-!
# Matchers

Which paths a format claims.
-/

namespace Codemod

inductive Matcher where
  /-- Paths that end with one of these. -/
  | endings (l : List String)
  /-- Paths that a pattern is found in. -/
  | pattern (covers : String → Bool)

namespace Matcher

def claims : Matcher → String → Bool
  | endings l, path => l.any (hasEnd path ·)
  | pattern covers, path => covers path

/-- Well-known dotfiles and endings of text files, or no dot at all. -/
def textPattern : String :=
  "((\\.(browserlistrc|editorconfig|gitignore|yml|yaml|npmrc|nvmrc|js|mjs|md|txt|css|scss))|(^[^.]*))$"

def text (engine : Pattern.Engine := .standard) : Matcher :=
  match engine.compile textPattern with
  | .ok covers => .pattern covers
  | .error _ => .endings []

def json : Matcher := .endings [".json"]

def markup : Matcher := .endings [".html", ".htm"]

def code : Matcher := .endings [".ts", ".tsx"]

end Matcher

end Codemod
