import Codemod.Json.Value

/-!
# Events

What a run tells those who watch it.
-/

namespace Codemod

inductive Event where
  /-- A phase of the run begins or ends. -/
  | query (progress : Binary64) (title : String)
  /-- The share of the files that are done. -/
  | determinate (progress : Binary64) (title : String)
  /-- How a file changes. -/
  | file (path diff : String)
  deriving DecidableEq

namespace Event

/-- The progress that a finished run announces. -/
def finished : Binary64 :=
  .ofRatio 1000 1

def isProgress : Event → Bool
  | file _ _ => false
  | _ => true

def isFile (e : Event) : Bool :=
  !e.isProgress

/-- The title of an event about progress. -/
def title? : Event → Option String
  | query _ t => some t
  | determinate _ t => some t
  | file _ _ => none

def toJson : Event → Json
  | query p t => .obj [("type", .str "query"), ("progress", .num (.float p)), ("title", .str t)]
  | determinate p t =>
    .obj [("type", .str "determinate"), ("progress", .num (.float p)), ("title", .str t)]
  | file p d => .obj [("type", .str "file"), ("path", .str p), ("diff", .str d)]

end Event

end Codemod
