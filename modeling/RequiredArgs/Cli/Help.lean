/-
# Help and completion

The texts that explain the program, and the scripts that let a shell complete its commands. Both are
made here from the tables of commands and options. They stand in for the longer texts that a library for
command lines generates from such tables and say the same in fewer words, so nothing but the exit code
of a run that prints one of them is to be relied on.
-/

namespace RequiredArgs
namespace Cli

/-- The name of the program. -/
def programName : String := "argguard"

/-- The commands, with what they do. -/
def commandNotes : List (String × String) :=
  [("check", "Check Go sources against the configured rules"),
   ("rules", "Print the loaded rule set"),
   ("completion", "Generate shell completion scripts"),
   ("help", "Print this message")]

/-- The options, with what they do. -/
def optionNotes : List (String × String) :=
  [("--json", "Output as structured JSON"),
   ("-v, --verbose", "Enable debug logging on stderr"),
   ("-c, --config <CONFIG>", "Rule configuration file (check, rules)"),
   ("-h, --help", "Print help"),
   ("-V, --version", "Print version")]

/-- A listing of names and notes, the notes below each other. -/
def listing (notes : List (String × String)) : String :=
  let width := notes.foldl (fun n (name, _) => max n name.length) 0
  String.join (notes.map fun (name, note) =>
    "  " ++ name ++ String.ofList (List.replicate (width - name.length + 2) ' ') ++ note ++ "\n")

/-- The text that explains the program. -/
def helpText : String :=
  "Enforce required arguments on Go function signatures\n\n" ++
  "Usage: " ++ programName ++ " [OPTIONS] <COMMAND>\n\n" ++
  "Commands:\n" ++ listing commandNotes ++ "\nOptions:\n" ++ listing optionNotes

/-- A shell that completion scripts are written for. -/
inductive Shell where
  | bash
  | zsh
  | fish
  | elvish
  | powershell
deriving DecidableEq, Repr

namespace Shell

/-- The name of a shell. -/
def name : Shell → String
  | bash => "bash"
  | zsh => "zsh"
  | fish => "fish"
  | elvish => "elvish"
  | powershell => "powershell"

/-- All shells. -/
def all : List Shell := [bash, zsh, fish, elvish, powershell]

/-- The shell with a name in any case. No letter beyond ASCII has one of the letters of these names as
its lower case. -/
def ofName? (text : String) : Option Shell :=
  let lower := text.map Char.toLower
  if lower == "ps" then some powershell else all.find? fun s => s.name == lower

/-- The script for a shell. -/
def script (shell : Shell) : String :=
  let words := " ".intercalate (commandNotes.map Prod.fst)
  match shell with
  | bash => "complete -W \"" ++ words ++ "\" -o default " ++ programName ++ "\n"
  | zsh => "#compdef " ++ programName ++ "\n_arguments '1:command:(" ++ words ++ ")' '*:file:_files'\n"
  | fish => "complete -c " ++ programName ++ " -n __fish_use_subcommand -a '" ++ words ++ "'\n"
  | elvish =>
    "set edit:completion:arg-completer[" ++ programName ++ "] = \x7b|@words| put " ++ words ++
      " \x7d\n"
  | powershell =>
    "Register-ArgumentCompleter -Native -CommandName " ++ programName ++
      " -ScriptBlock \x7b \"" ++ words ++ "\".Split() \x7d\n"

end Shell

/-- The answer to the name of a shell that is not known. -/
def unsupportedShell (text : String) : String :=
  s!"error: unsupported shell '{text}'\nsupported: " ++ ", ".intercalate (Shell.all.map Shell.name) ++
    "\n"

end Cli
end RequiredArgs
