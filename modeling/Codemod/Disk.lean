import Codemod.Disk.Fault
import Codemod.Path
import Codemod.Text.Bytes

/-!
# The disk

Folders, files and symbolic links, each at a place. A path is followed from the working folder,
segment by segment and through the links on its way, to a place. The names of entries need not be
text, and those that are not are shown with U+FFFD for what cannot be read.

## Main definitions

* `Disk.Name`, `Disk.Place` — the names of entries, and where these are.
* `Disk.OsPath` — paths that entries are looked up by.
* `Disk.locate` — the place that a path leads to.
* `Disk.stat`, `Disk.names`, `Disk.read` — what is there.
* `Disk.write`, `Disk.remove`, `Disk.makeFolders` — how it changes.
-/

namespace Codemod

inductive Disk.Entry where
  | folder
  | file (content : Bytes)
  | link (target : String)
  deriving DecidableEq, Inhabited

/-- The name of an entry: text, or bytes that are not. -/
inductive Disk.Name where
  | text (s : String)
  | other (b : Bytes) (h : b.toText? = none)
  deriving DecidableEq

namespace Disk.Name

instance : Coe String Name := ⟨text⟩

instance : Inhabited Name := ⟨""⟩

def bytes : Name → Bytes
  | text s => .ofText s
  | other b _ => b

/-- The name as text. -/
def shown : Name → String
  | text s => s
  | other b _ => b.toLossyText

/-- How many bytes the name has. -/
def size : Name → Nat
  | text s => s.utf8ByteSize
  | other b _ => b.length

/-- Whether a segment leads nowhere else. -/
def isIdle : Name → Bool
  | text s => Path.isIdle s
  | other _ _ => false

end Disk.Name

/-- The names from the topmost folder down to an entry. -/
abbrev Disk.Place := List Disk.Name

/-- The segments of a path, as names. -/
def Disk.Place.of (path : String) : Place :=
  (Path.segments path).map .text

/-- A path as entries are looked up by it: text and, if one of the names joined to it is no text,
the names from that one on. -/
structure Disk.OsPath where
  text : String
  below : List Disk.Name := []

namespace Disk.OsPath

instance : Coe String OsPath := ⟨({ text := · })⟩

/-- The path of the entry with the given name. -/
def join (p : OsPath) (name : Name) : OsPath :=
  match p.below, name with
  | [], .text s => Path.join p.text s
  | [], name => { text := Path.join p.text "", below := [name] }
  | below, name => { p with below := below ++ [name] }

def shown (p : OsPath) : String :=
  p.text ++ "/".intercalate (p.below.map (·.shown))

def size (p : OsPath) : Nat :=
  p.text.utf8ByteSize + (p.below.foldl (fun n name => n + name.size + 1) 0 - 1)

def segments (p : OsPath) : List Name :=
  Place.of p.text ++ p.below

end Disk.OsPath

structure Disk where
  /-- All entries but the topmost folder. -/
  entries : List (Disk.Place × Disk.Entry) := []
  /-- The working folder. -/
  home : Disk.Place := []

namespace Disk

/-! ## Entries -/

def find (p : Place) : List (Place × Entry) → Option Entry
  | [] => none
  | (q, e) :: rest => if q = p then some e else find p rest

def replace (p : Place) (e : Entry) : List (Place × Entry) → List (Place × Entry)
  | [] => [(p, e)]
  | (q, f) :: rest => if q = p then (q, e) :: rest else (q, f) :: replace p e rest

/-- The entry at a place. -/
def get? (d : Disk) (p : Place) : Option Entry :=
  if p = [] then some .folder else find p d.entries

/-- The disk with another entry at a place. -/
def set (d : Disk) (p : Place) (e : Entry) : Disk :=
  { d with entries := replace p e d.entries }

/-- The disk with nothing at a place. -/
def erase (d : Disk) (p : Place) : Disk :=
  { d with entries := d.entries.filter (·.1 ≠ p) }

/-! ## Following a path -/

/-- Where following a path ends. -/
inductive Target where
  | found (p : Place) (e : Entry)
  /-- Nothing is there, but the folder it would be in is. -/
  | vacant (p : Place)

/-- How far a path leads before a link has to be followed. -/
inductive Step where
  | arrived (t : Target)
  | refused (f : Fault)
  /-- A link in the folder `p` stands in the way; `rest` comes after it. -/
  | detour (p : Place) (target : String) (rest : List Name)

/-- A name has at most this many bytes. -/
def nameLimit : Nat := 255

/-- A path has fewer bytes than this. -/
def pathLimit : Nat := 4096

/-- How many links may be followed on the way to one place. -/
def linkLimit : Nat := 40

/-- Follows segments from the folder `here`. A link at the end is followed only if `follow`. -/
def step (d : Disk) (follow : Bool) (here : Place) : List Name → Step
  | [] => .arrived (.found here .folder)
  | name :: rest =>
    if name.isIdle then step d follow here rest
    else if name = ".." then step d follow here.dropLast rest
    else if nameLimit < name.size then .refused .nameTooLong
    else
      match d.get? (here ++ [name]) with
      | none => if rest.isEmpty then .arrived (.vacant (here ++ [name])) else .refused .noEntry
      | some .folder => step d follow (here ++ [name]) rest
      | some (.file b) =>
        if rest.isEmpty then .arrived (.found (here ++ [name]) (.file b)) else .refused .notFolder
      | some (.link t) =>
        if rest.isEmpty && !follow then .arrived (.found (here ++ [name]) (.link t))
        else .detour here t rest

/-- The folder that a path starts from. -/
def start (path : String) (here : Place) : Place :=
  if Path.isAbsolute path then [] else here

/-- Follows segments and, at most `links` times, a link. -/
def resolve (d : Disk) (follow : Bool) : (links : Nat) → Place → List Name → Except Fault Target
  | links, here, segments =>
    match d.step follow here segments with
    | .arrived t => .ok t
    | .refused f => .error f
    | .detour p target rest =>
      match links with
      | 0 => .error .tooManyLinks
      | links + 1 => resolve d follow links (start target p) (Place.of target ++ rest)

/-- The place that `path` leads to. -/
def lookUp (d : Disk) (follow : Bool) (path : OsPath) : Except Fault Target :=
  if path.text.toList.contains '\x00' then .error .badPath
  else if path.text = "" then .error .noEntry
  else if pathLimit ≤ path.size then .error .nameTooLong
  else d.resolve follow linkLimit (start path.text d.home) path.segments

/-- The place that a path leads to that is text. -/
def locate (d : Disk) (follow : Bool) (path : String) : Except Fault Target :=
  d.lookUp follow path

/-! ## Looking -/

/-- The entry that `path` leads to, links followed. -/
def stat (d : Disk) (path : OsPath) : Except Fault Entry := do
  match ← d.lookUp true path with
  | .found _ e => return e
  | .vacant _ => throw .noEntry

def isFolder (d : Disk) (path : String) : Bool :=
  match d.stat path with
  | .ok .folder => true
  | _ => false

/-- Whether `path` leads to anything. -/
def isThere (d : Disk) (path : String) : Bool :=
  (d.stat path).isOk

/-- The names in the folder at a place, in the order of their bytes. -/
def namesAt (d : Disk) (p : Place) : List Name :=
  (d.entries.filterMap fun (q, _) =>
    match q.getLast? with
    | some name => if q.dropLast = p then some name else none
    | none => none).mergeSort fun a b => decide (a.bytes ≤ b.bytes)

/-- The names in a folder. -/
def names (d : Disk) (path : OsPath) : Except Fault (List Name) := do
  match ← d.lookUp true path with
  | .found p .folder => return d.namesAt p
  | .found _ _ => throw .notFolder
  | .vacant _ => throw .noEntry

/-- The bytes of a file. -/
def read (d : Disk) (path : String) : Except Fault Bytes := do
  match ← d.stat path with
  | .file b => return b
  | _ => throw .isFolder

/-! ## Changing -/

/-- Gives a file its bytes; it is made if it is not there. -/
def write (d : Disk) (path : String) (content : Bytes) : Except Fault Disk := do
  match ← d.locate true path with
  | .found _ .folder => throw .isFolder
  | .found p _ => return d.set p (.file content)
  | .vacant p => return d.set p (.file content)

/-- Removes a file or a link. -/
def remove (d : Disk) (path : String) : Except Fault Disk := do
  match ← d.locate false path with
  | .found _ .folder => throw .isFolder
  | .found p _ => return d.erase p
  | .vacant _ => throw .noEntry

/-- Makes a folder in a folder that is there. -/
def makeFolder (d : Disk) (path : String) : Except Fault Disk := do
  match ← d.locate false path with
  | .found _ _ => throw .alreadyThere
  | .vacant p => return d.set p .folder

/-- Makes the first folder of the list; the others are those above it, nearest first, and are made
if need be. Folders that have been made stay also when the rest fails. -/
def makeChain (d : Disk) : List String → Disk × Option Fault
  | [] => (d, none)
  | path :: above =>
    let settle (d : Disk) (f : Fault) : Disk × Option Fault :=
      if d.isFolder path then (d, none) else (d, some f)
    match d.makeFolder path with
    | .ok d => (d, none)
    | .error .noEntry =>
      match makeChain d above with
      | (d, some f) => (d, some f)
      | (d, none) =>
        match d.makeFolder path with
        | .ok d => (d, none)
        | .error f => settle d f
    | .error f => settle d f

/-- Makes a folder and the folders above it, as far as they are not there. -/
def makeFolders (d : Disk) (path : String) : Disk × Option Fault :=
  d.makeChain (Path.ancestors path)

/-- Makes a link. -/
def makeLink (d : Disk) (path target : String) : Except Fault Disk := do
  match ← d.locate false path with
  | .found _ _ => throw .alreadyThere
  | .vacant p => return d.set p (.link target)

/-- Removes a file, a link or a folder with all that is in it. -/
def removeAll (d : Disk) (path : String) : Except Fault Disk := do
  match ← d.locate false path with
  | .found p _ => return { d with entries := d.entries.filter fun e => !p.isPrefixOf e.1 }
  | .vacant _ => throw .noEntry

end Disk

end Codemod
