import Codemod.Config.Reader
import Codemod.Disk

/-!
# Loading settings

Settings are read from a file on disk; where there is none, nothing is set.
-/

namespace Codemod.Config

/-- Where the settings of a project are. -/
def fileName : String := ".project-updater.yaml"

inductive LoadError where
  | unreadable (path reason : String)
  | malformed (path : String) (cause : Yaml.Invalid)

/-- What is said about an error, outermost first. -/
def LoadError.contexts : LoadError → List String
  | unreadable path reason => ["Failed to read " ++ path, reason]
  | malformed path _ => ["Failed to parse " ++ path]

/-- What is wrong with the text of the settings, if that is the cause. -/
def LoadError.cause? : LoadError → Option Yaml.Invalid
  | unreadable _ _ => none
  | malformed _ e => some e

/-- The settings in the file at `path`. -/
def load (d : Disk) (path : String) : Except LoadError Config :=
  if !d.isThere path then .ok {}
  else
    match d.read path with
    | .error f => .error (.unreadable path f.message)
    | .ok b =>
      match b.toText? with
      | none => .error (.unreadable path "stream did not contain valid UTF-8")
      | some s =>
        match ofYaml s with
        | .ok c => .ok c
        | .error e => .error (.malformed path e)

end Codemod.Config
