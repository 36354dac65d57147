/-
# Import tables

The imports of one file, by the alias that qualifies a type. An import without a name gets the last
segment of its path as alias; blank (`_`) and dot (`.`) imports qualify nothing and are not
recorded. Of two imports under one alias the later one holds.
-/

import RequiredArgs.Text.Blank

namespace RequiredArgs
namespace Go

/-- The marks that can stand around an import path. -/
def isQuoteMark (c : Char) : Bool := c == '"' || c == '\x60' || c == '\''

/-- The path without the white space and then the quotation marks around it. -/
def unquotePath (s : String) : String :=
  .ofList (Text.stripWhile isQuoteMark (Text.stripWhile Text.isBlank s.toList))

/-- The alias of an import that gives none: the last segment of its path. -/
def defaultAlias (path : String) : String :=
  .ofList ((unquotePath path).toList.reverse.takeWhile (· != '/')).reverse

/-- The imports of one file: pairs of alias and path, no alias twice. -/
structure ImportTable where
  entries : List (String × String) := []
deriving DecidableEq, Repr, Inhabited

namespace ImportTable

/-- Puts a path under an alias, in place of what stood there. -/
def insert (t : ImportTable) (key path : String) : ImportTable :=
  { entries := (t.entries.filter (·.1 != key)) ++ [(key, path)] }

/-- The alias and path that an import declaration records, if it records any. -/
def recorded? (path : String) (name : Option String) : Option (String × String) :=
  let path := unquotePath path
  if path.isEmpty then none
  else match name with
    | some name => if name == "_" || name == "." then none else some (name, path)
    | none => some (defaultAlias path, path)

/-- The table after one more import declaration. -/
def add (t : ImportTable) (path : String) (name : Option String) : ImportTable :=
  match recorded? path name with
  | some (key, path) => t.insert key path
  | none => t

/-- The table of a list of import declarations, in order. -/
def ofList (imports : List (String × Option String)) : ImportTable :=
  imports.foldl (fun t (path, name) => t.add path name) {}

/-- The path behind an alias. -/
def resolve? (t : ImportTable) (key : String) : Option String :=
  (t.entries.find? (·.1 == key)).map (·.2)

/-- The number of aliases. -/
def size (t : ImportTable) : Nat := t.entries.length

end ImportTable
end Go
end RequiredArgs
