/-!
# Tokens of a YAML text

Structure that is shown by indentation is made explicit: a block of lines begins with a token that
says what it is and ends with `blockEnd`.
-/

namespace Codemod.Yaml

/-- What can be wrong with a text. -/
inductive Invalid where
  | controlCharacter
  | missingColon
  | entryNotAllowed
  | keyNotAllowed
  | valueNotAllowed
  | badCharacter
  | badDirective
  | badAnchor
  | badTag
  | badBlockHeader
  | tabInIndentation
  | unclosedQuote
  | badEscape
  | badPlainText
  | unexpectedToken
  | undefinedTag
  | undefinedAlias
  | manyDocuments
  /-- The text is well formed and not of the expected shape. -/
  | shape
  deriving DecidableEq, Inhabited

def Invalid.message : Invalid → String
  | controlCharacter => "control characters are not allowed"
  | missingColon => "could not find expected ':'"
  | entryNotAllowed => "block sequence entries are not allowed in this context"
  | keyNotAllowed => "mapping keys are not allowed in this context"
  | valueNotAllowed => "mapping values are not allowed in this context"
  | badCharacter => "found character that cannot start any token"
  | badDirective => "found unknown directive"
  | badAnchor => "did not find expected alphabetic or numeric character"
  | badTag => "did not find expected tag"
  | badBlockHeader => "did not find expected comment or line break"
  | tabInIndentation => "found a tab character where an indentation space is expected"
  | unclosedQuote => "found unexpected end of stream"
  | badEscape => "found unknown escape character"
  | badPlainText => "found unexpected ':'"
  | unexpectedToken => "did not find expected node content"
  | undefinedTag => "found undefined tag handle"
  | undefinedAlias => "unknown anchor"
  | manyDocuments => "more than one document"
  | shape => "invalid type"

inductive Style where
  | plain
  | quoted
  | literal
  | folded
  deriving DecidableEq, Inhabited

inductive Token where
  | streamEnd
  | versionDirective
  | tagDirective (handle front : String)
  | documentStart
  | documentEnd
  | blockSequenceStart
  | blockMappingStart
  | blockEnd
  | flowSequenceStart
  | flowSequenceEnd
  | flowMappingStart
  | flowMappingEnd
  | blockEntry
  | flowEntry
  | key
  | value
  | alias (name : String)
  | anchor (name : String)
  /-- A tag: a handle and what follows it; an empty handle means a tag in full. -/
  | tag (handle suffix : String)
  | scalar (text : String) (style : Style)
  deriving DecidableEq, Inhabited

/-! ## Characters -/

def isBreak (c : Char) : Bool :=
  c == '\n' || c == '\r' || c == '\u0085' || c == '\u2028' || c == '\u2029'

def isBlank (c : Char) : Bool :=
  c == ' ' || c == '\t'

/-- Characters that may stand in a text at all. -/
def isAllowed (c : Char) : Bool :=
  let n := c.toNat
  n == 9 || n == 10 || n == 13 || (0x20 ≤ n && n ≤ 0x7e) || n == 0x85 || (0xa0 ≤ n && n ≤ 0xfffd) ||
    0x10000 ≤ n

end Codemod.Yaml
