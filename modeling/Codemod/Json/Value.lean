import Codemod.Decimal.Shortest

/-!
# JSON values

A number is a whole number or a double. The members of an object keep the order in which their
names first appeared.

## Main definitions

* `Json.equal` — equality of values, blind to the order of members.
* `Members.get?`, `Members.insert` — an object as a map.
-/

namespace Codemod

inductive Json.Num where
  | int (i : Int)
  | float (x : Binary64)
  deriving DecidableEq

/-- A whole number never equals a double. -/
def Json.Num.equal : Json.Num → Json.Num → Bool
  | .int a, .int b => a == b
  | .float a, .float b => a.equal b
  | _, _ => false

inductive Json where
  | null
  | bool (b : Bool)
  | num (n : Json.Num)
  | str (s : String)
  | arr (items : List Json)
  | obj (members : List (String × Json))
  deriving Inhabited

namespace Json

/-- The value of a member. -/
def get? (name : String) : List (String × Json) → Option Json
  | [] => none
  | (k, v) :: rest => if k = name then some v else get? name rest

/-- Gives a member a value: in its place if the name is there already, else at the end. -/
def insert (name : String) (value : Json) : List (String × Json) → List (String × Json)
  | [] => [(name, value)]
  | (k, v) :: rest => if k = name then (k, value) :: rest else (k, v) :: insert name value rest

mutual

/-- Equality of values; the order of an object's members does not matter. -/
def equal : Json → Json → Bool
  | null, null => true
  | bool a, bool b => a == b
  | num a, num b => a.equal b
  | str a, str b => a == b
  | arr as, arr bs => equalItems as bs
  | obj as, obj bs => as.length == bs.length && equalMembers as bs
  | _, _ => false

def equalItems : List Json → List Json → Bool
  | [], [] => true
  | a :: as, b :: bs => a.equal b && equalItems as bs
  | _, _ => false

def equalMembers : List (String × Json) → List (String × Json) → Bool
  | [], _ => true
  | (k, a) :: as, bs =>
    (match get? k bs with
    | some b => a.equal b
    | none => false) && equalMembers as bs

end

/-- A value's kind, with its article. -/
def kind : Json → String
  | null => "null"
  | bool _ => "a boolean"
  | num _ => "a number"
  | str _ => "a string"
  | arr _ => "an array"
  | obj _ => "an object"

def ofNat (n : Nat) : Json :=
  num (.int n)

def ofStrings (l : List String) : Json :=
  arr (l.map str)

end Json

end Codemod
