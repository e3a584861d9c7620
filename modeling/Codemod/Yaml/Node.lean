import Codemod.Yaml.Token

/-!
# YAML documents

A document is a tree of scalars, sequences and mappings. Aliases have been replaced by what they
stand for.
-/

namespace Codemod.Yaml

inductive Node where
  | scalar (tag : Option String) (style : Style) (text : String)
  | sequence (tag : Option String) (items : List Node)
  | mapping (tag : Option String) (entries : List (Node × Node))
  deriving Inhabited

namespace Node

/-- What is taken to stand where nothing is written. -/
def missing : Node :=
  scalar none .plain ""

def tag : Node → Option String
  | scalar t _ _ => t
  | sequence t _ => t
  | mapping t _ => t

end Node

end Codemod.Yaml
