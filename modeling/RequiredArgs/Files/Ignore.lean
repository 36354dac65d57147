/-
# Ignore files

A line of an ignore file is a glob for the entries below its directory: with `!` in front it brings
entries back, with a slash at the end it is for directories only, and without a slash within it is for
names at any depth. Of the lines that match an entry the last one decides.
-/

import RequiredArgs.Files.Glob
import RequiredArgs.Files.Tree
import RequiredArgs.Text.Blank

namespace RequiredArgs
namespace Files

open Pattern (Expr)

/-- What ignore files say of an entry. -/
inductive Verdict where
  | ignore
  | keep
deriving DecidableEq, Repr

/-- One line of an ignore file. -/
structure IgnoreLine where
  verdict : Verdict
  onlyDirs : Bool
  glob : Expr

/-- The glob of a line, made to match the whole path below the directory. -/
def anchoredGlob (isAnchored : Bool) (cs : List Char) : List Char :=
  let stars := ['*', '*', '/']
  let cs :=
    if isAnchored || cs.contains '/' || cs == ['*', '*'] then cs else stars ++ cs
  if "/**".toList.isSuffixOf cs then cs ++ "/*".toList else cs

/-- The white space at the end of a line does not count, unless a backslash stands before it. -/
def trimLine (cs : List Char) : List Char :=
  if "\\ ".toList.isSuffixOf cs then cs else Text.dropTailWhile Text.isBlank cs

/-- Reads a line; comments, empty lines and malformed globs say nothing. -/
def ignoreLine? (line : List Char) : Option IgnoreLine :=
  let cs := trimLine line
  if line.head? == some '#' || cs.isEmpty then none
  else
    let (verdict, isAnchored, cs) : Verdict × Bool × List Char := match cs with
      | '\\' :: '!' :: rest => (.ignore, false, '!' :: rest)
      | '\\' :: '#' :: rest => (.ignore, false, '#' :: rest)
      | '!' :: '/' :: rest => (.keep, true, rest)
      | '!' :: rest => (.keep, false, rest)
      | '/' :: rest => (.ignore, true, rest)
      | cs => (.ignore, false, cs)
    let onlyDirs := cs.getLast? == some '/'
    let cs := if onlyDirs then cs.dropLast else cs
    let cs := if onlyDirs && cs.getLast? == some '\\' then cs.dropLast else cs
    (Glob.compile? (anchoredGlob isAnchored cs)).map fun glob => { verdict, onlyDirs, glob }

/-- Cuts bytes at the line feeds; a line feed at the end begins no further line. -/
def byteLines : List UInt8 → List (List UInt8)
  | [] => []
  | b :: bs =>
    if b == 10 then [] :: byteLines bs
    else match byteLines bs with
      | [] => [[b]]
      | l :: ls => (b :: l) :: ls

/-- The lines of a file up to the first one that is no text, without their line ends. -/
def textLines (lines : List (List UInt8)) : List (List Char) :=
  match lines with
  | [] => []
  | l :: ls =>
    match String.fromUTF8? ⟨l.toArray⟩ with
    | none => []
    | some text =>
      let cs := text.toList
      (if cs.getLast? == some '\r' then cs.dropLast else cs) :: textLines ls

/-- The lines of an ignore file that say something; a byte order mark in front does not count. -/
def ignoreLines (content : ByteArray) : List IgnoreLine :=
  let lines := match textLines (byteLines content.toList) with
    | l :: ls => l.dropWhile (· == '\uFEFF') :: ls
    | [] => []
  lines.filterMap ignoreLine?

/-- What the lines say of the entry with this path below their directory: the last that matches. -/
def verdict? (lines : List IgnoreLine) (path : String) (isDir : Bool) : Option Verdict :=
  (lines.reverse.find? fun l => (!l.onlyDirs || isDir) && Glob.isMatch l.glob path).map (·.verdict)

/-- The ignore files of a directory, the strongest first. -/
def ignoreNames : List (List String) :=
  [[".argguardignore"], [".ignore"], [".gitignore"], [".git", "info", "exclude"]]

/-- What the ignore files of one kind say of an entry: of the directories on the way to it, the nearest
whose file says something decides. -/
def Tree.verdictOf? (t : Tree) (kind : List String) (entry : List String) (isDir : Bool) :
    Option Verdict :=
  ((List.range entry.length).reverse).findSome? fun depth =>
    match t.content? (entry.take depth ++ kind) with
    | some content =>
      verdict? (ignoreLines content) ("/".intercalate (entry.drop depth)) isDir
    | none => none

/-- Entries whose names start with a dot are hidden. -/
def isHidden (entry : List String) : Bool :=
  (entry.getLastD "").toList.head? == some '.'

/-- A walk leaves the entry out: the strongest kind of ignore file that says something decides, and
hidden entries are left out if none does. -/
def Tree.isSkipped (t : Tree) (entry : List String) (isDir : Bool) : Bool :=
  match ignoreNames.findSome? fun kind => t.verdictOf? kind entry isDir with
  | some .ignore => true
  | some .keep => false
  | none => isHidden entry

end Files
end RequiredArgs
