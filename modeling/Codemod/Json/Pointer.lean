import Codemod.Json.Value
import Codemod.Text.Quoted
import Codemod.Text.Search

/-!
# JSON pointers

A pointer is a list of tokens, each naming a member of an object or a position in an array.
Looking up takes array positions in their canonical spelling only; setting also takes a plus sign
and leading zeros, creates objects for missing members on the way, and can append to an array.

## Main definitions

* `Pointer.tokens` — the tokens of a pointer's text.
* `Json.lookup` — the value a pointer leads to.
* `Json.setInPlace` — puts a value where a pointer leads, step by step.
* `Json.set` — the document with a value put where a pointer leads.
-/

namespace Codemod

namespace Pointer

/-- In a token `~1` stands for a slash and `~0` for a tilde. -/
def unescape (token : List Char) : List Char :=
  Text.replaceAll ['~', '0'] ['~'] (Text.replaceAll ['~', '1'] ['/'] token)

/-- The tokens of a pointer that begins with a slash, given what follows that slash. -/
def tokensAfter (rest : List Char) : List String :=
  (Text.splitOn ['/'] rest).map fun t => String.ofList (unescape t)

/-- The tokens of a pointer's text: none for the empty text, and no pointer at all if the first
character is not a slash. -/
def tokens (pointer : String) : Option (List String) :=
  match pointer.toList with
  | [] => some []
  | c :: rest => if c = '/' then some (tokensAfter rest) else none

/-! ## Array positions -/

inductive IndexError where
  | empty
  | invalidDigit
  | tooLarge
  deriving DecidableEq

def IndexError.message : IndexError → String
  | empty => "cannot parse integer from empty string"
  | invalidDigit => "invalid digit found in string"
  | tooLarge => "number too large to fit in target type"

/-- The bound of positions. -/
def indexBound : Nat := Nat.pow 2 64

def indexDigits (n : Nat) : List Char → Except IndexError Nat
  | [] => .ok n
  | c :: s =>
    if '0' ≤ c ∧ c ≤ '9' then
      let n' := n * 10 + (c.toNat - '0'.toNat)
      if n' < indexBound then indexDigits n' s else .error .tooLarge
    else .error .invalidDigit

/-- A position as a decimal number, with a plus sign and leading zeros allowed. -/
def index (token : String) : Except IndexError Nat :=
  match token.toList with
  | [] => .error .empty
  | ['+'] => .error .invalidDigit
  | '+' :: s => indexDigits 0 s
  | s => indexDigits 0 s

/-- A position in its canonical spelling: no sign and no leading zero. -/
def canonicalIndex? (token : String) : Option Nat :=
  match token.toList with
  | '+' :: _ => none
  | '0' :: _ :: _ => none
  | _ => (index token).toOption

end Pointer

namespace Json

/-- The value that tokens lead to. -/
def follow : Json → List String → Option Json
  | v, [] => some v
  | obj members, t :: ts =>
    match get? t members with
    | some v => follow v ts
    | none => none
  | arr items, t :: ts =>
    match (Pointer.canonicalIndex? t).bind (items[·]?) with
    | some v => follow v ts
    | none => none
  | _, _ :: _ => none

/-- The value that a pointer leads to. -/
def lookup (v : Json) (pointer : String) : Option Json :=
  (Pointer.tokens pointer).bind v.follow

inductive SetError where
  | notAPointer (pointer : String)
  | notAnIndex (token : String) (cause : Pointer.IndexError)
  | outOfBounds (index : Nat)
  | cannotDescend (kind : String)
  | cannotSetMember (kind : String)
  deriving DecidableEq

/-- The links of an error's explanation, outermost first. -/
def SetError.chain : SetError → List String
  | notAPointer p => ["pointer " ++ Text.quoted p ++ " must start with '/'"]
  | notAnIndex t cause => [Text.quoted t ++ " is not an array index", cause.message]
  | outOfBounds i => ["index " ++ toString i ++ " is out of bounds"]
  | cannotDescend k => ["cannot descend into " ++ k]
  | cannotSetMember k => ["cannot set a member of " ++ k]

def position (token : String) : Except SetError Nat :=
  match Pointer.index token with
  | .ok i => .ok i
  | .error e => .error (.notAnIndex token e)

/-- Puts `value` at the last token: as a member, in an item's place, or at the end of an array. -/
def setLast (token : String) (value : Json) : Json → Except SetError Json
  | obj members => .ok (obj (insert token value members))
  | arr items =>
    if token = "-" then .ok (arr (items ++ [value]))
    else
      match position token with
      | .error e => .error e
      | .ok i =>
        if i < items.length then .ok (arr (items.set i value))
        else if i = items.length then .ok (arr (items ++ [value]))
        else .error (.outOfBounds i)
  | v => .error (.cannotSetMember v.kind)

/-- A child of a value, and the value with another one in its place. -/
structure Child where
  value : Json
  put : Json → Json

/-- The child that a token leads down to. A member that is missing is there from then on, as an
object without members. -/
def child (token : String) : Json → Except SetError Child
  | obj members =>
    .ok { value := (get? token members).getD (obj []), put := (obj <| insert token · members) }
  | arr items =>
    match position token with
    | .error e => .error e
    | .ok i =>
      match items[i]? with
      | none => .error (.outOfBounds i)
      | some v => .ok { value := v, put := (arr <| items.set i ·) }
  | v => .error (.cannotDescend v.kind)

/-- Puts `value` where the tokens lead, in place. What has become of the document is told also if
that fails, with all that was put into it on the way down. -/
def assign (value : Json) : (tokens : List String) → Json → Except SetError Unit × Json
  | [], _ => (.ok (), value)
  | [t], v =>
    match setLast t value v with
    | .ok next => (.ok (), next)
    | .error e => (.error e, v)
  | t :: u :: ts, v =>
    match child t v with
    | .error e => (.error e, v)
    | .ok c =>
      let (outcome, next) := assign value (u :: ts) c.value
      (outcome, c.put next)

/-- Puts `value` where `pointer` leads, in place. -/
def setInPlace (v : Json) (pointer : String) (value : Json) : Except SetError Unit × Json :=
  match Pointer.tokens pointer with
  | some ts => assign value ts v
  | none => (.error (.notAPointer pointer), v)

/-- The document with `value` where `pointer` leads. -/
def set (v : Json) (pointer : String) (value : Json) : Except SetError Json :=
  match v.setInPlace pointer value with
  | (.ok (), next) => .ok next
  | (.error e, _) => .error e

end Json

end Codemod
