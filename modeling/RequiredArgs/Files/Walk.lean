/-
# Finding sources

A root is a file, which is taken if it is a Go source, or a directory, below which all Go sources are
taken that no ignore file leaves out and that are not hidden. The sources found are listed in the order
of paths, each path once.
-/

import RequiredArgs.Files.Ignore

namespace RequiredArgs
namespace Files

namespace Tree

/-- Every entry on the way from the directory `top` to the file is walked. -/
def isReached (t : Tree) (top file : List String) : Bool :=
  (List.range' (top.length + 1) (file.length - top.length)).all fun n =>
    !t.isSkipped (file.take n) (n < file.length)

/-- The files below a directory that a walk reaches, by the names below it. -/
def filesBelow (t : Tree) (top : List String) : List (List String) :=
  (t.files.filter fun (f, _) =>
    top.length < f.length && top.isPrefixOf f && t.isReached top f).map fun (f, _) =>
      f.drop top.length

/-- The Go sources under one root, by the paths they are found with. The directory `-` cannot be named
like this: the dash stands for standard input, which is no file. -/
def sourcesUnder (t : Tree) (base : List String) (root : String) : List String :=
  match t.resolve base root with
  | .error _ => []
  | .ok p =>
    if t.isFile p then [root].filter isGoSource
    else if samePath root "-" then []
    else ((t.filesBelow p).map fun f => joinPath root ("/".intercalate f)).filter isGoSource

end Tree

/-- Leaves out a path that is the same as the one before it. -/
def dropRepeated : List String → List String
  | [] => []
  | [a] => [a]
  | a :: b :: rest =>
    if samePath a b then dropRepeated (a :: rest) else a :: dropRepeated (b :: rest)
termination_by paths => paths.length

/-- The Go sources under some roots. -/
def Tree.walk (t : Tree) (base : List String) (roots : List String) : List String :=
  dropRepeated ((roots.flatMap (t.sourcesUnder base)).mergeSort pathLe)

end Files
end RequiredArgs
