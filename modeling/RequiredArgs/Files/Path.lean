/-
# Paths

A path is kept as the text it was given in, since it is printed that way. It is compared by its
components: repeated slashes and a `.` that is not the first component do not count, and neither does a
slash at the end.
-/

namespace RequiredArgs
namespace Files

/-- Cuts a text at its slashes; between two slashes there is an empty segment. -/
def segments (cs : List Char) : List (List Char) :=
  match cs with
  | [] => [[]]
  | c :: rest =>
    if c == '/' then [] :: segments rest
    else match segments rest with
      | [] => [[c]]
      | s :: ss => (c :: s) :: ss

/-- The segments of a path as texts. -/
def segmentTexts (path : String) : List String := (segments path.toList).map String.ofList

/-- A component of a path. -/
inductive Component where
  | root
  | current
  | parent
  | name (text : String)
deriving DecidableEq, Repr, Inhabited

namespace Component

/-- Where a component stands in the order of components, before names are compared. -/
def rank : Component → Nat
  | root => 0
  | current => 1
  | parent => 2
  | name _ => 3

/-- The name, if the component is one. -/
def text : Component → String
  | name t => t
  | _ => ""

/-- The order of components; names are compared by their bytes. -/
def cmp (a b : Component) : Ordering := (compare a.rank b.rank).then (compare a.text b.text)

/-- The component that a segment stands for, if it counts. -/
def ofSegment? : String → Option Component
  | "" | "." => none
  | ".." => some parent
  | t => some (name t)

end Component

/-- The path starts at the root of the file system. -/
def isAbsolute (path : String) : Bool := path.toList.head? == some '/'

/-- The components of a path. -/
def components (path : String) : List Component :=
  let parts := segmentTexts path
  let head := if isAbsolute path then [.root]
    else if parts.head? == some "." then [.current] else []
  head ++ parts.filterMap Component.ofSegment?

/-- The order of paths by their components. -/
def compareComponents : List Component → List Component → Ordering
  | [], [] => .eq
  | [], _ :: _ => .lt
  | _ :: _, [] => .gt
  | a :: as, b :: bs => (a.cmp b).then (compareComponents as bs)

/-- Two texts are the same path. -/
def samePath (a b : String) : Bool := components a == components b

/-- The path comes before the other one or is the same. -/
def pathLe (a b : String) : Bool := compareComponents (components a) (components b) != .gt

/-- The last component, if it is a name. -/
def fileName? (path : String) : Option String :=
  match (components path).getLast? with
  | some (.name t) => some t
  | _ => none

/-- The part of a name behind its last dot; a dot at the very front does not count. -/
def extension? (name : String) : Option String :=
  let cs := name.toList
  let tail := cs.reverse.takeWhile (· != '.')
  if tail.length + 1 < cs.length then some (.ofList tail.reverse) else none

/-- The path is that of a Go source: its last name has the extension `go`. -/
def isGoSource (path : String) : Bool := (fileName? path).bind extension? == some "go"

/-- The path of an entry below a directory. -/
def joinPath (dir entry : String) : String :=
  if isAbsolute entry || dir.isEmpty then entry
  else if dir.toList.getLast? == some '/' then dir ++ entry
  else dir ++ "/" ++ entry

/-- The text without the slashes and the `.` segments in front. -/
def dropCurrent : Nat → List Char → List Char
  | 0, cs => cs
  | fuel + 1, cs =>
    match cs with
    | '/' :: rest => dropCurrent fuel rest
    | ['.'] => []
    | '.' :: '/' :: rest => dropCurrent fuel rest
    | cs => cs

/-- A path that starts with the current directory, without that start; any other path as it is. -/
def withoutCurrent (path : String) : String :=
  match components path with
  | .current :: _ => .ofList (dropCurrent path.length path.toList)
  | _ => path

end Files
end RequiredArgs
