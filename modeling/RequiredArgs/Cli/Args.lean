/-
# Command lines

A command line is a command with options and words. `--json` and `--verbose` may stand before the
command and behind it, each once in each place; `--config` stands behind `check` and `rules` and takes
a value. One-letter options may be joined, and the value of `-c` may be joined to it. Behind `--`
everything is a word. Of several faults the first one counts, and a request for help or for the
version is answered as soon as it is met.
-/

namespace RequiredArgs
namespace Cli

/-- What the program is asked to do. -/
inductive Command where
  | check (paths : List String) (config : Option String)
  | rules (config : Option String)
  | completion (shell : String)
deriving DecidableEq, Repr

/-- A command line that has been understood. -/
structure Invocation where
  command : Command
  json : Bool
  verbose : Bool
deriving DecidableEq, Repr

/-- What a command line can be wrong about. -/
inductive Misuse where
  | noCommand
  | unknownCommand (word : String)
  | unknownOption (word : String)
  | unexpectedValue (option : String)
  | repeatedOption (option : String)
  | noValue (option : String)
  | emptyValue (name : String)
  | unexpectedWord (word : String)
  | missingWord (name : String)
deriving DecidableEq, Repr

/-- The wording of a fault. -/
def Misuse.message : Misuse → String
  | noCommand => "a command is required"
  | unknownCommand word => s!"unrecognized command '{word}'"
  | unknownOption word => s!"unexpected option '{word}'"
  | unexpectedValue option => s!"option '{option}' takes no value"
  | repeatedOption option => s!"option '{option}' cannot be used more than once"
  | noValue option => s!"option '{option}' requires a value"
  | emptyValue name => s!"the value of '{name}' must not be empty"
  | unexpectedWord word => s!"unexpected argument '{word}'"
  | missingWord name => s!"missing argument '{name}'"

/-- Why a command line leads to no command. -/
inductive Stop where
  | help
  | version
  | misuse (fault : Misuse)
deriving DecidableEq, Repr

/-- The part of a command line that words and options belong to. -/
inductive Level where
  | top
  | check
  | rules
  | completion
deriving DecidableEq, Repr

/-- The part that a command begins. -/
def Level.ofWord? : String → Option Level
  | "check" => some check
  | "rules" => some rules
  | "completion" => some completion
  | _ => none

/-- An option. -/
inductive Switch where
  | json
  | verbose
  | help
  | version
  | config
deriving DecidableEq, Repr

namespace Switch

/-- The long name of an option. -/
def name : Switch → String
  | json => "--json"
  | verbose => "--verbose"
  | help => "--help"
  | version => "--version"
  | config => "--config"

/-- The option may be used on this level. -/
def isAllowed (level : Level) : Switch → Bool
  | json | verbose | help => true
  | version => level == .top
  | config => level == .check || level == .rules

/-- The option with a long name, which is given without its dashes. -/
def ofName? (level : Level) (text : String) : Option Switch :=
  [json, verbose, help, version, config].find? fun s => s.isAllowed level && s.name == "--" ++ text

/-- The option with a letter. -/
def ofLetter? (level : Level) (c : Char) : Option Switch :=
  let found := match c with
    | 'v' => some verbose
    | 'h' => some help
    | 'V' => some version
    | 'c' => some config
    | _ => none
  found.filter (isAllowed level)

end Switch

/-- What has been read on one level. -/
structure Seen where
  json : Bool := false
  verbose : Bool := false
  config : Option String := none
  words : List String := []
deriving DecidableEq, Repr

namespace Seen

/-- Takes an option that has no value. -/
def switchOn (s : Seen) : Switch → Except Stop Seen
  | .json =>
    if s.json then .error (.misuse (.repeatedOption "--json")) else .ok { s with json := true }
  | .verbose =>
    if s.verbose then .error (.misuse (.repeatedOption "--verbose"))
    else .ok { s with verbose := true }
  | .help => .error .help
  | .version => .error .version
  | .config => .error (.misuse (.noValue "--config"))

/-- Takes the value of `--config`. -/
def setConfig (s : Seen) (value : String) : Except Stop Seen :=
  if s.config.isSome then .error (.misuse (.repeatedOption "--config"))
  else if value.isEmpty then .error (.misuse (.emptyValue "--config"))
  else .ok { s with config := some value }

/-- Takes a word. -/
def addWord (level : Level) (s : Seen) (word : String) : Except Stop Seen :=
  let added : Seen := { s with words := s.words ++ [word] }
  match level with
  | .top => .error (.misuse (.unknownCommand word))
  | .check => if word.isEmpty then .error (.misuse (.emptyValue "paths")) else .ok added
  | .rules => .error (.misuse (.unexpectedWord word))
  | .completion => if s.words.isEmpty then .ok added else .error (.misuse (.unexpectedWord word))

/-- Takes a long option, given by its name and the value joined to it. The answer says whether a value
has to follow. -/
def long (level : Level) (s : Seen) (name : String) (value : Option String) :
    Except Stop (Seen × Bool) :=
  match Switch.ofName? level name, value with
  | none, _ => .error (.misuse (.unknownOption ("--" ++ name)))
  | some .config, none => .ok (s, true)
  | some .config, some v => (s.setConfig v).map fun s => (s, false)
  | some o, none => (s.switchOn o).map fun s => (s, false)
  | some o, some _ => .error (.misuse (.unexpectedValue o.name))

/-- Takes the letters of joined options. The answer says whether a value has to follow. -/
def letters (level : Level) (s : Seen) : List Char → Except Stop (Seen × Bool)
  | [] => .ok (s, false)
  | c :: rest =>
    match Switch.ofLetter? level c with
    | none => .error (.misuse (.unknownOption ("-" ++ String.singleton c)))
    | some .config =>
      match rest with
      | [] => .ok (s, true)
      | '=' :: v => (s.setConfig (.ofList v)).map fun s => (s, false)
      | v => (s.setConfig (.ofList v)).map fun s => (s, false)
    | some o =>
      match s.switchOn o with
      | .error e => .error e
      | .ok s => letters level s rest

end Seen

/-- An argument that is read as an option: a dash with something behind it. -/
def isOption (arg : String) : Bool :=
  match arg.toList with
  | '-' :: _ :: _ => true
  | _ => false

/-- Takes an argument that is not behind `--`. The answer says whether a value has to follow. -/
def takeArg (level : Level) (s : Seen) (arg : String) : Except Stop (Seen × Bool) :=
  match arg.toList with
  | '-' :: '-' :: cs =>
    let name := String.ofList (cs.takeWhile (· != '='))
    match cs.dropWhile (· != '=') with
    | [] => s.long level name none
    | _ :: v => s.long level name (some (.ofList v))
  | '-' :: c :: cs => s.letters level (c :: cs)
  | _ => (s.addWord level arg).map fun s => (s, false)

/-- Reads the arguments behind a command. `waits` says that a value for `--config` has to come. -/
def readLevel (level : Level) : Bool → Seen → List String → Except Stop Seen
  | true, _, [] => .error (.misuse (.noValue "--config"))
  | false, s, [] => .ok s
  | true, s, arg :: rest =>
    if isOption arg then .error (.misuse (.noValue "--config"))
    else match s.setConfig arg with
      | .error e => .error e
      | .ok s => readLevel level false s rest
  | false, s, arg :: rest =>
    if arg == "--" then rest.foldlM (Seen.addWord level) s
    else match takeArg level s arg with
      | .error e => .error e
      | .ok (s, waits) => readLevel level waits s rest

/-- The configuration path: that of the command line, else that of the environment. -/
def configPath (env : Option String) (s : Seen) : Except Stop (Option String) :=
  match s.config, env with
  | some path, _ => .ok (some path)
  | none, some "" => .error (.misuse (.emptyValue "--config"))
  | none, env => .ok env

/-- The command of a level, once its arguments have been read. -/
def toCommand (env : Option String) (level : Level) (s : Seen) : Except Stop Command :=
  match level with
  | .top => .error (.misuse .noCommand)
  | .check => (configPath env s).map (.check s.words)
  | .rules => (configPath env s).map .rules
  | .completion =>
    match s.words with
    | shell :: _ => .ok (.completion shell)
    | [] => .error (.misuse (.missingWord "shell"))

/-- Help on a command, on a command only. -/
def helpOn : List String → Stop
  | [] => .help
  | [word] =>
    if word == "help" || (Level.ofWord? word).isSome then .help
    else .misuse (.unknownCommand word)
  | word :: next :: _ =>
    if word == "help" || (Level.ofWord? word).isSome then .misuse (.unknownCommand next)
    else .misuse (.unknownCommand word)

/-- Reads the arguments from the first one on: options, then the command and what is behind it. -/
def readTop (env : Option String) : Seen → List String → Except Stop Invocation
  | _, [] => .error (.misuse .noCommand)
  | s, arg :: rest =>
    if arg == "help" then .error (helpOn rest)
    else if arg == "--" then
      .error (.misuse (match rest with
        | word :: _ => .unknownCommand word
        | [] => .noCommand))
    else match Level.ofWord? arg with
      | some level => do
        let inner ← readLevel level false {} rest
        let command ← toCommand env level inner
        return { command, json := s.json || inner.json, verbose := s.verbose || inner.verbose }
      | none =>
        match takeArg .top s arg with
        | .error e => .error e
        | .ok (s, _) => readTop env s rest

/-- Reads a command line. `env` is the configuration path of the environment. -/
def parseArgs (env : Option String) (args : List String) : Except Stop Invocation :=
  readTop env {} args

end Cli
end RequiredArgs
