import Codemod.Text.Search

/-!
# Command lines

A command line names a command, a project and options. Arguments are taken from left to right; the
first that cannot be there makes the whole line invalid.

## Main definitions

* `Command` — what a command line asks for.
* `Command.parse` — reads a command line.
-/

namespace Codemod.Cli

structure UpdateOptions where
  config : Option String := none
  skipDirs : List String := []
  write : Bool := false
  yes : Bool := false
  json : Bool := false
  deriving DecidableEq, Inhabited

structure PlanOptions where
  config : Option String := none
  skipDirs : List String := []
  deriving DecidableEq, Inhabited

inductive Command where
  | update (path : String) (options : UpdateOptions)
  | plan (path : String) (options : PlanOptions)
  /-- How to use the program. -/
  | help
  /-- Which version of the program this is. -/
  | version
  deriving DecidableEq, Inhabited

/-! ## Arguments one by one -/

/-- What has been seen of the arguments of a command. -/
structure Seen where
  path : Option String := none
  config : Option String := none
  skipDirs : List String := []
  write : Bool := false
  yes : Bool := false
  json : Bool := false
  debug : Bool := false
  help : Bool := false

/-- An option as it is written: its name and, after `=`, its value. -/
def splitOption (arg : String) : String × Option String :=
  let name := arg.toList.takeWhile (· ≠ '=')
  let rest := arg.toList.drop name.length
  (String.ofList name, if rest.isEmpty then none else some (String.ofList (rest.drop 1)))

/-- Whether an argument is written like an option. -/
def isOption (arg : String) : Bool :=
  hasStart arg "-" && arg ≠ "-"

/-- Sets a flag that may be given once. -/
def once (set : Seen → Seen) (isSet : Seen → Bool) (s : Seen) : Option Seen :=
  if isSet s then none else some (set s)

/-- A flag without a value that both commands know. -/
def commonFlag (name : String) : Option (Seen → Option Seen) :=
  match name with
  | "--debug" => some (once (fun s => { s with debug := true }) Seen.debug)
  | "--help" => some fun s => some { s with help := true }
  | _ => none

/-- A flag that updates know besides. -/
def updateFlag (name : String) : Option (Seen → Option Seen) :=
  match name with
  | "--write" => some (once (fun s => { s with write := true }) Seen.write)
  | "--yes" => some (once (fun s => { s with yes := true }) Seen.yes)
  | "--json" => some (once (fun s => { s with json := true }) Seen.json)
  | _ => none

/-- An option with a value. A file must be named; it may be given once. -/
def valued (name : String) : Option (String → Seen → Option Seen) :=
  match name with
  | "--config" =>
    some fun v s => if v = "" || s.config.isSome then none else some { s with config := some v }
  | "--skip-dir" => some fun v s => some { s with skipDirs := s.skipDirs ++ [v] }
  | _ => none

/-- The letters of short flags, behind one dash. -/
def shortFlags (isUpdate : Bool) : List Char → Seen → Option Seen
  | [], s => some s
  | c :: rest, s =>
    if c = 'h' then some { s with help := true }
    else if c = 'y' && isUpdate && !s.yes then shortFlags isUpdate rest { s with yes := true }
    else none

/-- The project, which is named once. -/
def place (arg : String) (s : Seen) : Option Seen :=
  if s.path.isSome then none else some { s with path := some arg }

/-- Behind `--` everything names a project. -/
def places : List String → Seen → Option Seen
  | [], s => some s
  | arg :: rest, s => (place arg s).bind (places rest)

/-- The arguments of a command. Asking for help ends them. -/
def scan (isUpdate : Bool) : List String → Seen → Option Seen
  | [], s => some s
  | "--" :: rest, s => places rest s
  | arg :: rest, s =>
    if s.help then some s
    else if hasStart arg "--" then
      let (name, value) := splitOption arg
      match valued name, value, rest with
      | some set, some v, rest => (set v s).bind (scan isUpdate rest)
      | some set, none, v :: rest => if isOption v then none else (set v s).bind (scan isUpdate rest)
      | some _, none, [] => none
      | none, some _, _ => none
      | none, none, rest =>
        match commonFlag name <|> (if isUpdate then updateFlag name else none) with
        | some set => (set s).bind (scan isUpdate rest)
        | none => none
    else if isOption arg then
      (shortFlags isUpdate (arg.toList.drop 1) s).bind (scan isUpdate rest)
    else (place arg s).bind (scan isUpdate rest)

/-! ## Whole lines -/

def parseUpdate (args : List String) : Option Command := do
  let s ← scan true args {}
  if s.help then return .help
  let path ← s.path
  return .update path
    { config := s.config, skipDirs := s.skipDirs, write := s.write, yes := s.yes, json := s.json }

def parsePlan (args : List String) : Option Command := do
  let s ← scan false args {}
  if s.help then return .help
  let path ← s.path
  return .plan path { config := s.config, skipDirs := s.skipDirs }

/-- What a command line asks for; `none` if it is invalid. -/
def Command.parseFrom (debug : Bool) : List String → Option Command
  | "--debug" :: rest => if debug then none else parseFrom true rest
  | "--help" :: _ => some .help
  | "-h" :: _ => some .help
  | "--version" :: _ => some .version
  | "-V" :: _ => some .version
  | "update" :: rest => parseUpdate rest
  | "plan" :: rest => parsePlan rest
  | _ => none

def Command.parse (args : List String) : Option Command :=
  parseFrom false args

end Codemod.Cli
