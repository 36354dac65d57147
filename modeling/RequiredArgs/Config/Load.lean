/-
# Configuration files

A configuration is read from a named file, or from the first of the default names that is a file in a
directory. A file that is named is used alone: there is no looking further if it cannot be used.
-/

import RequiredArgs.Config.Decode
import RequiredArgs.Files.Tree

namespace RequiredArgs
namespace Config

open Files (Tree joinPath)

/-- The configuration in the file at `path`, which is taken from the directory `base`. -/
def load (t : Tree) (base : List String) (path : String) : Except LoadError Config :=
  match t.readText base path with
  | .error e => .error (.unreadable path e.message)
  | .ok text => ofYaml text

/-- The path of the configuration file of a directory. -/
def discover (t : Tree) (base : List String) (dir : String) : Except LoadError String :=
  match (defaultNames.map (joinPath dir)).find? (t.isFileAt base) with
  | some path => .ok path
  | none => .error .notFound

end Config
end RequiredArgs
