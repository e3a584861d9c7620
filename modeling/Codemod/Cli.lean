import Codemod.Cli.Arguments
import Codemod.Cli.Style
import Codemod.Config.Load
import Codemod.Json.Writer
import Codemod.Session.Setup
import Codemod.Text.Blank

/-!
# The command line

A command works on a disk and answers with what it prints, its exit code and the disk afterwards.
Before that it may ask a question.

## Main definitions

* `Cli.plan` — lists the files that an update would visit.
* `Cli.update` — updates a project, shows the changes and brings them to the disk.
* `Cli.runLine` — runs a command line.
-/

namespace Codemod.Cli

/-- What a command is run with. -/
structure Environment where
  disk : Disk
  color : Bool := false
  /-- What interferes with the run. -/
  signals : Signals := Signals.none
  /-- What reads the patterns of the settings. -/
  engine : Pattern.Engine := .standard

structure Answer where
  exit : Nat := 0
  stdout : String := ""
  /-- Why the command failed, the outermost reason. -/
  error : Option String := none
  disk : Disk

/-- Prints, in front of what comes after. -/
def Answer.after (out : String) (a : Answer) : Answer :=
  { a with stdout := out ++ a.stdout }

/-- A command is done, or it has printed a question and goes on with what it is told. -/
inductive Reply where
  | answer (a : Answer)
  | question (out : String) (next : String → Answer)

namespace Reply

def after (out : String) : Reply → Reply
  | answer a => answer (a.after out)
  | question out' next => question (out ++ out') next

/-- The answer, where `input` can be read. -/
def withInput (input : String) : Reply → Answer
  | answer a => a
  | question out next => (next input).after out

end Reply

def line (s : String) : String :=
  s ++ "\n"

def done (d : Disk) (out : String) : Answer :=
  { stdout := out, disk := d }

def failed (d : Disk) (reason : String) : Answer :=
  { exit := 1, error := some reason, disk := d }

/-- The session for the project at `root`. -/
def session (env : Environment) (root : String) (config : Option String) (skip : List String) :
    Except String Session :=
  match Config.load env.disk (config.getD (Path.join root Config.fileName)) with
  | .error e => .error (e.contexts.headD "")
  | .ok c => (Session.ofConfig env.engine root c skip).mapError (·.contexts.headD "")

/-! ## Plan -/

/-- `s` with blanks up to the given width. -/
def pad (width : Nat) (s : String) : String :=
  s ++ String.ofList (List.replicate (width - s.length) ' ')

/-- A file and the format that claims it. -/
def planLine (color : Bool) (path format : String) : String :=
  if color && format = "-" then Style.dimmed.apply (pad 8 format) ++ " " ++ Style.dimmed.apply path
  else pad 8 format ++ " " ++ path

/-- How many of the files have each format, in the order of the formats' names. -/
def tally (formats : List String) : List String :=
  (formats.eraseDups.mergeSort fun a b => decide (a ≤ b)).map fun f =>
    f ++ ": " ++ toString (formats.count f)

def plan (env : Environment) (root : String) (o : PlanOptions) : Answer :=
  let d := env.disk
  if !d.isFolder root then failed d (Failure.notADirectory root).message
  else
    match session env root o.config o.skipDirs with
    | .error reason => failed d reason
    | .ok s =>
      match d.walk root s.skipDirs with
      | .error f => failed d f.message
      | .ok files =>
        let formats := files.map fun f => (s.updaterFor? f).getD "-"
        let lines := (files.zip formats).map fun (f, format) => line (planLine env.color f format)
        done d ("".intercalate lines ++
          line (Symbol.gear.text env.color ++ " " ++ toString files.length ++ " files (" ++
            ", ".intercalate (tally formats) ++ ")"))

/-! ## Update -/

/-- Whether the first line of the input says yes. -/
def confirms (input : String) : Bool :=
  let first := input.toList.takeWhile (· ≠ '\n')
  let answer := String.ofList ((Text.trim first).map Char.toLower)
  answer = "y" || answer = "yes"

def reportJson (r : Report) : Json :=
  .obj [("type", .str "write"), ("written", .ofStrings r.written), ("deleted", .ofStrings r.deleted)]

/-- Brings the changes to the disk and tells about it. -/
def write (env : Environment) (json : Bool) (s : Session) : Answer :=
  match s.commit env.disk with
  | (d, _, .error _) => failed d "failed to write changes"
  | (d, _, .ok r) =>
    if json then done d (line (reportJson r).compact)
    else
      done d (line (Symbol.check.text env.color ++ " Wrote " ++ toString r.written.length ++
        " file(s), deleted " ++ toString r.deleted.length ++ "."))

/-- Asks whether the changes are to be brought to the disk. -/
def ask (env : Environment) (s : Session) : Reply :=
  .question
    (Symbol.question.text env.color ++ " Write " ++ toString s.changes.length ++ " change(s) to " ++
      s.root ++ "? [y/N] ")
    fun input => if confirms input then write env false s else done env.disk (line "Aborted.")

/-- What comes after a run that has finished. -/
def conclude (env : Environment) (o : UpdateOptions) (s : Session) : Reply :=
  let say (symbol : Symbol) (text : String) : String :=
    if o.json then "" else line (symbol.text env.color ++ " " ++ text)
  let skipped := "".intercalate
    (s.skipped.map fun f => say .cross ("skipped " ++ f.path ++ ": " ++ f.reason))
  let n := s.changes.length
  Reply.after skipped <|
    if n = 0 then .answer (done env.disk (say .check "No changes."))
    else if !o.write then
      .answer (done env.disk (say .check
        (toString n ++ " file(s) would change. Run again with --write to apply.")))
    else if o.yes then .answer (write env o.json s)
    else if o.json then .answer (failed env.disk "--write together with --json needs --yes")
    else ask env s

/-- The title of the last event that has one. -/
def lastTitle (events : List Event) : String :=
  ((events.filterMap Event.title?).getLast?).getD "update failed"

/-- The events of a run as they are shown: as data one a line, or the diffs alone. -/
def showEvents (env : Environment) (json : Bool) (events : List Event) : String :=
  if json then "".intercalate (events.map fun e => line e.toJson.compact)
  else
    "".intercalate (events.map fun
      | .file _ diff => colorizeDiff diff env.color
      | _ => "")

def update (env : Environment) (root : String) (o : UpdateOptions) : Reply :=
  match session env root o.config o.skipDirs with
  | .error reason => .answer (failed env.disk reason)
  | .ok s =>
    let r := s.update env.disk env.signals
    Reply.after (showEvents env o.json r.events) <|
      match r.session.state with
      | .errored => .answer (failed env.disk (lastTitle r.events))
      | .canceled =>
        .answer (done env.disk
          (if o.json then ""
            else line (Symbol.cross.text env.color ++ " Update canceled, nothing written.")))
      | _ => conclude env o r.session

/-! ## Command lines -/

def versionText : String := "project-updater 0.1.0-alpha"

/-- How the program is used. -/
def helpText : String :=
  "Usage: project-updater [--debug] update <PATH> [--config <CONFIG>] [--skip-dir <SKIP_DIR>]... " ++
    "[--write] [-y | --yes] [--json]\n" ++
  "       project-updater [--debug] plan <PATH> [--config <CONFIG>] [--skip-dir <SKIP_DIR>]..."

/-- Runs a command. -/
def run (env : Environment) : Command → Reply
  | .help => .answer (done env.disk (line helpText))
  | .version => .answer (done env.disk (line versionText))
  | .plan path o => .answer (plan env path o)
  | .update path o => update env path o

/-- Runs a command line; an invalid one does nothing. -/
def runLine (env : Environment) (args : List String) : Reply :=
  match Command.parse args with
  | none => .answer { exit := 2, disk := env.disk }
  | some c => run env c

end Codemod.Cli
