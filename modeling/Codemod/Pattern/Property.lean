import Codemod.Pattern.Binary
import Codemod.Pattern.Category
import Codemod.Pattern.CharSet
import Codemod.Pattern.Script

/-!
# Properties of characters

Sets of characters by the name of a property: a general category or a group of them, a script, or
a property that a character has or has not. Case, blanks, underscores and hyphens in a name do not
count, nor does `is` in front of it.

## Main definitions

* `Property.find?` — the set of a name.
* `Property.value?` — the set of a property and one of its values.
-/

namespace Codemod.Pattern.Property

/-- A name without what does not count in it. The name `isc` is a property of its own. -/
def normalize (name : String) : String :=
  let s := name.toList
  let hasIs := (s.take 2).map Char.toLower == ['i', 's']
  let kept := ((if hasIs then s.drop 2 else s).filter fun c =>
    c.toNat < 0x80 && c != ' ' && c != '_' && c != '-').map Char.toLower
  if hasIs && kept == ['c'] then "isc" else String.ofList kept

def listed (s : String) : CharSet :=
  .ranges (Text.Ranges.ofString s)

/-- The characters of categories by their short names. -/
def categories (names : List String) : CharSet :=
  .ranges ((categoryTable.filter fun (n, _) => names.contains n).flatMap fun (_, s) =>
    Text.Ranges.ofString s)

/-- The categories of which a group consists. -/
def group? (name : String) : Option (List String) :=
  match name with
  | "lc" | "casedletter" => some ["lu", "ll", "lt"]
  | "l" | "letter" => some ["lu", "ll", "lt", "lm", "lo"]
  | "m" | "mark" | "combiningmark" => some ["mn", "mc", "me"]
  | "n" | "number" => some ["nd", "nl", "no"]
  | "p" | "punctuation" | "punct" => some ["pc", "pd", "ps", "pe", "pi", "pf", "po"]
  | "s" | "symbol" => some ["sm", "sc", "sk", "so"]
  | "z" | "separator" => some ["zs", "zl", "zp"]
  | _ => none

/-- The short name of a category. -/
def shortName (name : String) : String :=
  match name with
  | "control" | "cntrl" => "cc"
  | "format" => "cf"
  | "privateuse" => "co"
  | "lowercaseletter" => "ll"
  | "modifierletter" => "lm"
  | "otherletter" => "lo"
  | "titlecaseletter" => "lt"
  | "uppercaseletter" => "lu"
  | "spacingmark" => "mc"
  | "enclosingmark" => "me"
  | "nonspacingmark" => "mn"
  | "decimalnumber" | "digit" => "nd"
  | "letternumber" => "nl"
  | "othernumber" => "no"
  | "connectorpunctuation" => "pc"
  | "dashpunctuation" => "pd"
  | "closepunctuation" => "pe"
  | "finalpunctuation" => "pf"
  | "initialpunctuation" => "pi"
  | "otherpunctuation" => "po"
  | "openpunctuation" => "ps"
  | "currencysymbol" => "sc"
  | "modifiersymbol" => "sk"
  | "mathsymbol" => "sm"
  | "othersymbol" => "so"
  | "lineseparator" => "zl"
  | "paragraphseparator" => "zp"
  | "spaceseparator" => "zs"
  | s => s

/-- All characters that belong to a category of their own. -/
def assigned : CharSet :=
  categories (categoryTable.map (·.1))

def category? (name : String) : Option CharSet :=
  match name with
  | "any" => some (.compl .empty)
  | "assigned" => some assigned
  | "ascii" => some (.ranges [(0, 0x7f)])
  | "cn" | "unassigned" => some (.compl assigned)
  | "c" | "other" =>
    some (.union (categories ["cc", "cf", "co"]) (.compl assigned))
  | name =>
    match group? name with
    | some names => some (categories names)
    | none =>
      let short := shortName name
      if categoryTable.any (·.1 = short) then some (categories [short]) else none

def script? (name : String) : Option CharSet :=
  (scriptTable.find? fun (names, _) => names.contains name).map fun (_, s) => listed s

/-- The characters that have some script as well as others. -/
def scriptExtensions? (name : String) : Option CharSet := do
  let (names, own) ← scriptTable.find? fun (names, _) => names.contains name
  let others := extensionTable.filter fun (n, _) => names.contains n
  let shared := extensionTable.map fun (_, s) => listed s
  return if names.contains "zyyy" || names.contains "zinh" then shared.foldl .diff (listed own)
    else others.foldl (fun s (_, more) => .union s (listed more)) (listed own)

/-! ## Binary properties -/

def binaryListed? (name : String) : Option CharSet :=
  (binaryTable.find? fun (names, _) => names.contains name).map fun (_, s) => listed s

/-- The characters of categories, and others of a property. -/
def withOther (names : List String) (other : String) : CharSet :=
  .union (categories names) ((binaryListed? other).getD .empty)

def uppercase : CharSet := withOther ["lu"] "oupper"

def lowercase : CharSet := withOther ["ll"] "olower"

/-- Characters that are another one in some case. -/
def casemapped : CharSet := (binaryListed? "cwcm").getD .empty

def lowercased : CharSet := .inter casemapped (.union uppercase (categories ["lt"]))

/-- Characters that are others when the first letter of a word is made a capital. -/
def titlecased : CharSet :=
  .union
    (.diff casemapped
      (.union uppercase (.union (categories ["lt"]) (listed "10d0-10fa 10fd-10ff"))))
    (listed "1c4 1c7 1ca 1f1")

def casefolded : CharSet :=
  .union (.diff lowercased (listed "13a0-13f5"))
    (listed "b5 df 149 17f 345 3c2 3d0-3d1 3d5-3d6 3f0-3f1 3f5 587 13f8-13fd 1c80-1c88 1e9a-1e9b
      1f80-1f87 1f90-1f97 1fa0-1fa7 1fb2-1fb4 1fb7 1fc2-1fc4 1fc7 1ff2-1ff4 1ff7 ab70-abbf
      fb00-fb06 fb13-fb17")

def patternSyntax : CharSet := (binaryListed? "patsyn").getD .empty

def identifierStart : CharSet :=
  .diff (withOther ["lu", "ll", "lt", "lm", "lo", "nl"] "oids") patternSyntax

def identifierContinue : CharSet :=
  .union identifierStart (withOther ["mn", "mc", "nd", "pc"] "oidc")

/-- Characters of identifiers that are others when they are normalized. -/
def unstable : CharSet :=
  listed "37a 309b-309c fc5e-fc63 fdfa-fdfb fe70 fe72 fe74 fe76 fe78 fe7a fe7c fe7e"

def graphemeExtend : CharSet := withOther ["mn", "me"] "ogrext"

/-- Properties that a character has or has not. -/
def binary? (name : String) : Option CharSet :=
  match name with
  | "whitespace" | "wspace" | "space" => some (.blank false)
  | "alphabetic" | "alpha" => some (withOther ["lu", "ll", "lt", "lm", "lo", "nl"] "oalpha")
  | "uppercase" | "upper" => some uppercase
  | "lowercase" | "lower" => some lowercase
  | "cased" => some (.union uppercase (.union lowercase (categories ["lt"])))
  | "caseignorable" | "ci" =>
    some (.union (categories ["mn", "me", "cf", "lm", "sk"])
      (listed "27 2e 3a b7 387 55f 5f4 2018-2019 2024 2027 fe13 fe52 fe55 ff07 ff0e ff1a"))
  | "changeswhenlowercased" | "cwl" => some lowercased
  | "changeswhenuppercased" | "cwu" => some (.diff casemapped uppercase)
  | "changeswhentitlecased" | "cwt" => some titlecased
  | "changeswhencasefolded" | "cwcf" => some casefolded
  | "graphemebase" | "grbase" =>
    some (.diff assigned (.union (categories ["cc", "cf", "co", "zl", "zp"]) graphemeExtend))
  | "graphemeextend" | "grext" => some graphemeExtend
  | "idstart" | "ids" => some identifierStart
  | "idcontinue" | "idc" => some identifierContinue
  | "xidstart" | "xids" =>
    some (.diff identifierStart (.union unstable (listed "e33 eb3 ff9e-ff9f")))
  | "xidcontinue" | "xidc" => some (.diff identifierContinue unstable)
  | "math" => some (withOther ["sm"] "omath")
  | name => binaryListed? name

/-- The set of a name that stands alone. -/
def find? (name : String) : Option CharSet :=
  let name := normalize name
  (binary? name).or ((category? name).or (script? name))

/-- The set of characters whose `property` has the given value. -/
def value? (property value : String) : Option CharSet :=
  match normalize property with
  | "gc" | "generalcategory" => category? (normalize value)
  | "sc" | "script" => script? (normalize value)
  | "scx" | "scriptextensions" => scriptExtensions? (normalize value)
  | _ => none

end Codemod.Pattern.Property
