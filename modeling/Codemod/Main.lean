import Codemod.Cli

/-!
# The program

Takes what a command may look at from the file system, runs the command on it, prints what it says
and brings the changes back.
-/

namespace Codemod.Program

open Disk (Place Entry)

def pathOf (p : Place) : String :=
  "/" ++ "/".intercalate (p.map (·.shown))

/-- The place of a path, as it is written. -/
def placeOf (home : Place) (path : String) : Place :=
  (Path.segments path).foldl
    (fun p s => if Path.isIdle s then p else if s = ".." then p.dropLast else p ++ [.text s])
    (Disk.start path home)

/-- The folders above a place. -/
def above (p : Place) : List (Place × Entry) :=
  ((List.range p.length).drop 1).map fun n => (p.take n, .folder)

/-- A link that leads nowhere. -/
def deadEnd : Entry := .link "\x00"

/-- What is at a place of the file system and, at most `depth` folders deep, below it. -/
def take : (depth : Nat) → Place → IO (List (Place × Entry))
  | 0, p => return [(p, deadEnd)]
  | depth + 1, p => do
    let path := (← IO.currentDir) / pathOf p
    try
      match (← path.metadata).type with
      | .dir =>
        let entries ← path.readDir
        let below ← entries.toList.mapM fun e => take depth (p ++ [.text e.fileName])
        return (p, .folder) :: below.flatten
      | .file => return [(p, .file (← IO.FS.readBinFile path).toList)]
      | _ => return []
    catch _ => return [(p, deadEnd)]

/-- The part of the file system that a command may look at. -/
def takeFor (home : Place) (paths : List String) : IO Disk := do
  let mut entries := above home ++ [(home, .folder)]
  for path in paths do
    let p := placeOf home path
    for (q, e) in above p ++ (← take Disk.pathLimit p) do
      if (Disk.find q entries).isNone && q ≠ [] then entries := entries ++ [(q, e)]
  return { entries, home }

/-- Brings to the file system what is different on the disk. -/
def bring (before after : Disk) : IO Unit := do
  for (p, _) in before.entries do
    if (after.get? p).isNone then IO.FS.removeFile (pathOf p)
  for (p, e) in after.entries do
    if before.get? p ≠ some e then
      match e with
      | .folder => IO.FS.createDirAll (pathOf p)
      | .file b => IO.FS.writeBinFile (pathOf p) ⟨b.toArray⟩
      | .link _ => pure ()

/-- The paths that a command may look at. -/
def pathsOf : Cli.Command → List String
  | .update path o => path :: o.config.toList
  | .plan path o => path :: o.config.toList
  | _ => []

/-- Whether output is colored: always if `FORCE_COLOR` is set, else on a terminal unless `NO_COLOR`
is. -/
def wantsColor : IO Bool := do
  match ← IO.getEnv "FORCE_COLOR" with
  | some s => return s ≠ "0" && s ≠ "false"
  | none => return (← IO.getEnv "NO_COLOR").isNone && (← (← IO.getStdout).isTty)

def finish (before : Disk) (a : Cli.Answer) : IO UInt32 := do
  let out ← IO.getStdout
  bring before a.disk
  out.putStr a.stdout
  out.flush
  if let some e := a.error then IO.eprintln ("Error: " ++ e)
  return a.exit.toUInt32

def runCommand (c : Cli.Command) : IO UInt32 := do
  let home := (Place.of (← IO.currentDir).toString).filter (!·.isIdle)
  let disk ← takeFor home (pathsOf c)
  match Cli.run { disk, color := ← wantsColor } c with
  | .answer a => finish disk a
  | .question out next =>
    let stdout ← IO.getStdout
    stdout.putStr out
    stdout.flush
    finish disk (next (← (← IO.getStdin).getLine))

end Codemod.Program

def main (args : List String) : IO UInt32 := do
  match Codemod.Cli.Command.parse args with
  | some c => Codemod.Program.runCommand c
  | none =>
    IO.eprintln Codemod.Cli.helpText
    return 2
