/-
# File trees

A tree lists its files with their contents, and directories that may hold nothing. A file or
directory is named by the names on the way to it from the top of the tree; the directories on the way
to a file exist along with it. A file that the system does not let be read is in the tree, without
content and with the reason.
-/

import RequiredArgs.Files.Path

namespace RequiredArgs
namespace Files

/-- Files and directories. -/
structure Tree where
  files : List (List String × ByteArray) := []
  dirs : List (List String) := []
  /-- The files that cannot be read, each with the reason that the system gives. -/
  refusals : List (List String × String) := []

/-- Why a path leads nowhere, or to what cannot be read. -/
inductive AccessError where
  | notFound
  | notADirectory
  | isADirectory
  | notText
  | refused (reason : String)
deriving DecidableEq, Repr

/-- The wording of the system. -/
def AccessError.message : AccessError → String
  | notFound => "No such file or directory (os error 2)"
  | notADirectory => "Not a directory (os error 20)"
  | isADirectory => "Is a directory (os error 21)"
  | notText => "stream did not contain valid UTF-8"
  | refused reason => reason

namespace Tree

/-- The content of a file. -/
def content? (t : Tree) (p : List String) : Option ByteArray := t.files.lookup p

/-- A file has this name. -/
def isFile (t : Tree) (p : List String) : Bool := (t.content? p).isSome

/-- A directory has this name. -/
def isDir (t : Tree) (p : List String) : Bool :=
  p.isEmpty || t.dirs.any (p.isPrefixOf ·) ||
    t.files.any fun (f, _) => p.length < f.length && p.isPrefixOf f

/-- Adds a file, in place of one with the same name. -/
def addFile (t : Tree) (p : List String) (content : ByteArray) : Tree :=
  { t with
    files := t.files.filter (·.1 != p) ++ [(p, content)]
    refusals := t.refusals.filter (·.1 != p) }

/-- Adds a file that cannot be read. -/
def addRefused (t : Tree) (p : List String) (reason : String) : Tree :=
  let added := t.addFile p .empty
  { added with refusals := added.refusals ++ [(p, reason)] }

/-- Adds a directory. -/
def addDir (t : Tree) (p : List String) : Tree := { t with dirs := t.dirs ++ [p] }

/-- Follows the segments of a path, one after the other. -/
def follow (t : Tree) : List String → List String → Except AccessError (List String)
  | here, [] => .ok here
  | here, s :: rest =>
    if !t.isDir here then .error (if t.isFile here then .notADirectory else .notFound)
    else if s == "" || s == "." then t.follow here rest
    else if s == ".." then t.follow here.dropLast rest
    else if t.isFile (here ++ [s]) || t.isDir (here ++ [s]) then t.follow (here ++ [s]) rest
    else .error .notFound

/-- What a path leads to from the directory `base`. -/
def resolve (t : Tree) (base : List String) (path : String) : Except AccessError (List String) :=
  if path.isEmpty then .error .notFound
  else t.follow (if isAbsolute path then [] else base) (segmentTexts path)

/-- The path leads to something. -/
def pathExists (t : Tree) (base : List String) (path : String) : Bool :=
  (t.resolve base path).isOk

/-- The path leads to a file. -/
def isFileAt (t : Tree) (base : List String) (path : String) : Bool :=
  match t.resolve base path with
  | .ok p => t.isFile p
  | .error _ => false

/-- The text of the file that the path leads to. -/
def readText (t : Tree) (base : List String) (path : String) : Except AccessError String :=
  match t.resolve base path with
  | .error e => .error e
  | .ok p =>
    match t.content? p, t.refusals.lookup p with
    | none, _ => .error .isADirectory
    | some _, some reason => .error (.refused reason)
    | some bytes, none =>
      match String.fromUTF8? bytes with
      | some text => .ok text
      | none => .error .notText

end Tree
end Files
end RequiredArgs
