/-
# The program

Reads the files that a command line is about, runs it, and prints what the run answers. Everything
else is decided by `Cli.run`.
-/

import RequiredArgs.Cli.Run

namespace RequiredArgs
namespace Program

open Files (Tree)

/-- The reason that the system gives for a failure. -/
def reasonOf : IO.Error → String
  | .permissionDenied _ code details => s!"{details} (os error {code})"
  | failure => toString failure

/-- The content of a file, or why it cannot be read. -/
def contentOf (path : String) : IO (Except String ByteArray) := do
  try return .ok (← IO.FS.readBinFile path) catch failure => return .error (reasonOf failure)

/-- The path of an entry by the names on the way to it. -/
def absolutePath (names : List String) : String := "/" ++ "/".intercalate names

/-- A file with this name is looked into: a Go source, or an ignore file. -/
def isRead (names : List String) : Bool :=
  Files.isGoSource (absolutePath names) || Files.ignoreNames.any fun kind => kind.isSuffixOf names

/-- Adds a file to the tree, if it is looked into with its content or with the reason why that cannot be
read; a run that comes to the file then fails with the reason. -/
def addFile (t : Tree) (names : List String) (isWanted : Bool) : IO Tree := do
  if !isWanted then return t.addFile names .empty
  match ← contentOf (absolutePath names) with
  | .ok content => return t.addFile names content
  | .error reason => return t.addRefused names reason

/-- Adds a directory and everything below it. Links are left out. -/
partial def addAll (t : Tree) (names : List String) : IO Tree := do
  let mut t := t.addDir names
  let here ← IO.FS.realPath (absolutePath names)
  let entries ← try here.readDir catch _ => pure #[]
  for entry in entries do
    let below := names ++ [entry.fileName]
    match (← entry.path.symlinkMetadata).type with
    | .dir => t ← addAll t below
    | .file => t ← addFile t below (isRead below)
    | _ => pure ()
  return t

/-- The names on the way to what a path leads to. -/
def namesOf (cwd path : String) : List String :=
  (Files.segmentTexts (Files.joinPath cwd path)).foldl (fun names s =>
    if s == "" || s == "." then names
    else if s == ".." then names.dropLast else names ++ [s]) []

/-- Adds what is found under these names: a directory with everything below it, or a file. -/
def addFound (t : Tree) (names : List String) : IO Tree := do
  try
    let real ← IO.FS.realPath (absolutePath names)
    if ← real.isDir then addAll t names
    else if ← real.pathExists then addFile t names true
    else return t
  catch _ => return t

/-- Adds a single file, or an empty directory if there is one in its place. -/
def addSingle (t : Tree) (names : List String) : IO Tree := do
  try
    let real ← IO.FS.realPath (absolutePath names)
    if ← real.isDir then return t.addDir names
    else if ← real.pathExists then addFile t names true
    else return t
  catch _ => return t

/-- Adds the ignore files of the directories above what has these names. -/
def addIgnoreFiles (t : Tree) (names : List String) : IO Tree := do
  let mut t := t
  for depth in List.range names.length do
    for kind in Files.ignoreNames do
      t ← addSingle t (names.take depth ++ kind)
  return t

/-- The files that a command line is about. -/
def loadTree (cwd : String) (command : Cli.Command) : IO Tree := do
  let configs (config : Option String) : List String :=
    match config with
    | some path => [path]
    | none => Config.defaultNames
  let (paths, roots) := match command with
    | .check paths config => (configs config, Cli.Place.rootsOr paths)
    | .rules config => (configs config, [])
    | .completion _ => ([], [])
  let mut t : Tree := { dirs := [namesOf cwd "."] }
  for root in roots do
    t ← addIgnoreFiles (← addFound t (namesOf cwd root)) (namesOf cwd root)
  for path in paths do
    t ← addSingle t (namesOf cwd path)
  return t

end Program
end RequiredArgs

open RequiredArgs in
/-- Runs the program on its command line. -/
def main (args : List String) : IO UInt32 := do
  let env ← IO.getEnv "ARGGUARD_CONFIG"
  let cwd := (← IO.currentDir).toString
  let tree ← match Cli.parseArgs env args with
    | .ok i => Program.loadTree cwd i.command
    | .error _ => pure {}
  let out := Cli.run { tree, cwd } env args
  IO.print out.stdout
  IO.eprint out.stderr
  return out.code
