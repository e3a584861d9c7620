import Codemod.Disk.Fault

/-!
# Failures

What can go wrong while a project is updated, and how it is told.
-/

namespace Codemod

inductive Failure where
  | notADirectory (path : String)
  | io (path : String) (fault : Disk.Fault)
  | parse (path format message : String)
  | serialize (path format message : String)
  /-- A plugin gave up; `reasons` go from the outermost to the first cause. -/
  | plugin (path : String) (index : Nat) (reasons : List String)
  | invalidEdit (path reason : String)
  deriving DecidableEq, Inhabited

namespace Failure

/-- How a refused request for a path is told. -/
def refusal (path reason : String) : String :=
  "i/o error on " ++ path ++ ": " ++ reason

def message : Failure → String
  | notADirectory path => "The path " ++ path ++ " is not a directory."
  | io path fault => refusal path fault.message
  | parse path format message => "failed to parse " ++ path ++ " as " ++ format ++ ": " ++ message
  | serialize path format message =>
    "failed to serialize " ++ path ++ " as " ++ format ++ ": " ++ message
  | plugin path index reasons =>
    "plugin #" ++ toString index ++ " failed on " ++ path ++ ": " ++ ": ".intercalate reasons
  | invalidEdit path reason => "invalid edit of " ++ path ++ ": " ++ reason

/-- The file of the project that the failure is about, if it is about one. -/
def file? : Failure → Option String
  | notADirectory _ => none
  | io _ _ => none
  | parse path _ _ => some path
  | serialize path _ _ => some path
  | plugin path _ _ => some path
  | invalidEdit path _ => some path

end Failure

end Codemod
