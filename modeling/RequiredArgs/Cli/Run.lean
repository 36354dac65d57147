/-
# Commands at work

A run reads files and answers with an exit code and what it prints. It exits with 2 and prints nothing
on standard output if it cannot do what it is asked; `check` exits with 1 if it has something to
report.
-/

import RequiredArgs.Check
import RequiredArgs.Cli.Args
import RequiredArgs.Cli.Help
import RequiredArgs.Config.Load
import RequiredArgs.Files.Walk
import RequiredArgs.Report.Human
import RequiredArgs.Report.Json

namespace RequiredArgs
namespace Cli

open Files (Tree)

/-- How a run ends. -/
structure Outcome where
  code : UInt32
  stdout : String := ""
  stderr : String := ""
deriving DecidableEq, Repr

/-- A run that could not do what it was asked. -/
def Outcome.failure (stderr : String) : Outcome := { code := 2, stderr }

/-- Where a run takes place: the files and the current directory, an absolute path. -/
structure Place where
  tree : Tree
  cwd : String

namespace Place

/-- The names on the way to the current directory. -/
def base (p : Place) : List String :=
  (Files.segmentTexts p.cwd).filter fun s => s != "" && s != "."

/-- The configuration of a command, or what is reported if there is none: that at the explicit path if
one is given, else the one discovered in the current directory. -/
def config (p : Place) (command : String) (explicit : Option String) : Except String Config :=
  let found : Except Config.LoadError String := match explicit with
    | some path => .ok path
    | none => Config.discover p.tree p.base p.cwd
  match found with
  | .error e => .error s!"{programName} {command}: {e.message}\n"
  | .ok path =>
    match Config.load p.tree p.base path with
    | .error e => .error s!"{programName} {command}: {path}: {e.message}\n"
    | .ok c => .ok c

/-- The roots of a check: those given, else the current directory. -/
def rootsOr (paths : List String) : List String := if paths.isEmpty then ["."] else paths

/-- The sources under some roots, by the names they are reported with, or what is reported if a root
does not exist or a source cannot be read. -/
def sources (p : Place) (roots : List String) : Except String (List (String × String)) :=
  match roots.find? fun root => !p.tree.pathExists p.base root with
  | some missing => .error s!"{programName} check: no such file or directory: {missing}\n"
  | none =>
    (p.tree.walk p.base roots).mapM fun file =>
      match p.tree.readText p.base file with
      | .ok text => .ok (Files.withoutCurrent file, text)
      | .error e => .error s!"{programName} check: failed to read {file}: {e.message}\n"

end Place

/-- A text as a whole number of lines: the white space at its end is replaced by a line end. -/
def asLines (text : String) : String :=
  Text.trimEnd text ++ "\n"

/-- A report as it is printed; a report without text is not printed. -/
def printed (text : String) : String := if text.isEmpty then "" else asLines text

/-- The report of a check, or what is reported if there can be none. -/
def Place.report (p : Place) (config : Option String) (paths : List String) :
    Except String Report :=
  match p.config "check" config with
  | .error e => .error e
  | .ok c =>
    match p.sources (rootsOr paths) with
    | .error e => .error e
    | .ok sources => .ok (checkSources c.rules sources)

/-- Checks the sources under some roots. -/
def check (p : Place) (json : Bool) (config : Option String) (paths : List String) : Outcome :=
  match p.report config paths with
  | .error e => .failure e
  | .ok report =>
    { code := if report.isClean then 0 else 1
      stdout := printed (if json then report.json else report.human) }

/-- Lists the rules. -/
def rules (p : Place) (json : Bool) (config : Option String) : Outcome :=
  match p.config "rules" config with
  | .error e => .failure e
  | .ok c => { code := 0, stdout := asLines (if json then c.json else c.human) }

/-- Writes the completion script for a shell. -/
def completion (shell : String) : Outcome :=
  match Shell.ofName? shell with
  | some s => { code := 0, stdout := s.script }
  | none => .failure (unsupportedShell shell)

/-- Runs a command. -/
def Invocation.run (p : Place) (i : Invocation) : Outcome :=
  match i.command with
  | .check paths config => Cli.check p i.json config paths
  | .rules config => Cli.rules p i.json config
  | .completion shell => Cli.completion shell

/-- The answer to a command line that leads to no command. -/
def Stop.outcome : Stop → Outcome
  | help => { code := 0, stdout := helpText }
  | version => { code := 0, stdout := s!"{programName} {RequiredArgs.version}\n" }
  | misuse fault => .failure (s!"error: {fault.message}\n\n" ++ helpText)

/-- Runs a command line. `env` is the configuration path of the environment. -/
def run (p : Place) (env : Option String) (args : List String) : Outcome :=
  match parseArgs env args with
  | .error stop => stop.outcome
  | .ok i => i.run p

end Cli
end RequiredArgs
