/-
# Printing source files

Plain source files and the text in which they are laid out: a package clause, one import block, and
one line for each declaration, with an empty body.

| part | text |
| --- | --- |
| package clause | `package p` |
| line of the import block | `"path/of/pkg"`, `alias "path/of/other"`, `_ "path"` or `. "path"` |
| function | `func F(a, b *pkg.T, c [][]int) {}` |
| method, unnamed parameters | `func (r *R) M(alias.T, []T) {}` |

A file also says what a reader has to find in that text (`File.reading`). A reader is free in one
point, how it keeps parameter groups: `Params.groups` keeps them as they are written, `Params.kept`
lets at most nine names share a type.
-/

import RequiredArgs.Go.Syntax.Source

namespace RequiredArgs
namespace Go
namespace Printed

/-- The keywords, and the words of predeclared values and makers. -/
def reserved : List String :=
  ["break", "case", "chan", "const", "continue", "default", "defer", "else", "fallthrough", "for",
   "func", "go", "goto", "if", "import", "interface", "map", "package", "range", "return", "select",
   "struct", "switch", "type", "var"] ++ Symbol.valueWords ++ Symbol.makerWords

/-- The characters inside a name. -/
def isNameChar (c : Char) : Bool := c.isAlphanum || c == '_'

/-- The characters inside an import path. -/
def isPathChar (c : Char) : Bool :=
  c.isAlphanum || c == '.' || c == '/' || c == '-' || c == '_'

/-- A name: a letter, then letters, digits and underscores, and no reserved word. -/
structure Ident where
  head : Char
  tail : List Char
  head_isAlpha : head.isAlpha = true
  tail_isNameChar : tail.all isNameChar = true
  not_reserved : String.ofList (head :: tail) ∉ reserved
deriving DecidableEq

namespace Ident

def chars (i : Ident) : List Char := i.head :: i.tail

def text (i : Ident) : String := .ofList i.chars

end Ident

/-- An import path: a letter, then letters, digits, dots, slashes, hyphens and underscores. -/
structure ImportPath where
  head : Char
  tail : List Char
  head_isAlpha : head.isAlpha = true
  tail_isPathChar : tail.all isPathChar = true
deriving DecidableEq

namespace ImportPath

def chars (p : ImportPath) : List Char := p.head :: p.tail

def text (p : ImportPath) : String := .ofList p.chars

/-- The path between quotation marks. -/
def quoted (p : ImportPath) : List Char := '"' :: (p.chars ++ ['"'])

end ImportPath

/-- What can stand in front of an import path. -/
inductive ImportName where
  | ident (i : Ident)
  | blank
  | dot
deriving DecidableEq

namespace ImportName

def chars : ImportName → List Char
  | ident i => i.chars
  | blank => ['_']
  | dot => ['.']

def text (n : ImportName) : String := .ofList n.chars

end ImportName

/-- One import of the block. -/
structure Import where
  path : ImportPath
  name : Option ImportName := none
deriving DecidableEq

namespace Import

/-- The name and the blank behind it, if there is a name. -/
def nameChars : Option ImportName → List Char
  | some n => n.chars ++ [' ']
  | none => []

/-- The line of the import. -/
def chars (i : Import) : List Char := '\t' :: nameChars i.name ++ i.path.quoted ++ ['\n']

/-- Path and name, as an import table takes them. -/
def entry (i : Import) : String × Option String := (i.path.text, i.name.map ImportName.text)

end Import

/-- A type built from names, pointers and arrays. -/
inductive Ty where
  | name (n : Ident)
  | qualified (q n : Ident)
  | pointer (t : Ty)
  | array (t : Ty)
deriving DecidableEq

namespace Ty

def chars : Ty → List Char
  | name n => n.chars
  | qualified q n => q.chars ++ '.' :: n.chars
  | pointer t => '*' :: t.chars
  | array t => '[' :: ']' :: t.chars

def shape : Ty → Shape
  | name n => .ident n.text
  | qualified q n => .qualified q.text n.text
  | pointer t => .pointer t.shape
  | array t => .array t.shape

end Ty

/-- The texts with a comma and a blank between them. -/
def joined (texts : List (List Char)) : List Char := [',', ' '].intercalate texts

/-- Parameters under one type, at least one: those in front of the last, and the last. -/
structure Group where
  init : List Ident := []
  last : Ident
  type : Ty
deriving DecidableEq

namespace Group

def names (g : Group) : List Ident := g.init ++ [g.last]

def chars (g : Group) : List Char := joined (g.names.map Ident.chars) ++ ' ' :: g.type.chars

/-- The group as it is written. -/
def group (g : Group) : ParamGroup := { names := g.names.map Ident.text, shape := g.type.shape }

/-- What is kept of a group if at most nine names can share a type: each name in front of the last
nine is taken for the type of an unnamed parameter. -/
def kept (g : Group) : List ParamGroup :=
  ((g.names.take (g.names.length - 9)).map fun n => { shape := .ident n.text }) ++
    [{ names := (g.names.drop (g.names.length - 9)).map Ident.text, shape := g.type.shape }]

end Group

/-- The parameters of a declaration: all of them are named, or none is. -/
inductive Params where
  | named (groups : List Group)
  | unnamed (types : List Ty)
deriving DecidableEq

namespace Params

def chars : Params → List Char
  | named gs => joined (gs.map Group.chars)
  | unnamed ts => joined (ts.map Ty.chars)

/-- The parameter groups as they are written. -/
def groups : Params → List ParamGroup
  | named gs => gs.map Group.group
  | unnamed ts => ts.map fun t => { shape := t.shape }

/-- The parameter groups if at most nine names can share a type. -/
def kept : Params → List ParamGroup
  | named gs => gs.flatMap Group.kept
  | unnamed ts => ts.map fun t => { shape := t.shape }

/-- No type has more than nine names. -/
def AtMostNineNames : Params → Prop
  | named gs => ∀ g ∈ gs, g.names.length ≤ 9
  | unnamed _ => True

end Params

/-- A receiver `(r T)` or `(r *T)`. -/
structure Receiver where
  name : Ident
  isPointer : Bool := false
  type : Ident
deriving DecidableEq

namespace Receiver

/-- The receiver as a parameter. -/
def toGroup (r : Receiver) : Group where
  last := r.name
  type := if r.isPointer then .pointer (.name r.type) else .name r.type

def chars (r : Receiver) : List Char := '(' :: r.toGroup.chars ++ [')', ' ']

end Receiver

/-- A function or method without a result, with an empty body. -/
structure Func where
  name : Ident
  receiver : Option Receiver := none
  params : Params
deriving DecidableEq

namespace Func

/-- The receiver and the blank behind it, if there is one. -/
def receiverChars : Option Receiver → List Char
  | some r => r.chars
  | none => []

/-- The line without its keyword and the line end. -/
def body (d : Func) : List Char :=
  ' ' :: receiverChars d.receiver ++ d.name.chars ++ '(' :: d.params.chars ++
    [')', ' ', '\x7b', '\x7d']

/-- The line of the declaration. -/
def chars (d : Func) : List Char := "func".toList ++ (d.body ++ ['\n'])

/-- The declaration at a site, its parameters kept in the given way. -/
def decl (keep : Params → List ParamGroup) (site : Site) (d : Func) : FuncDecl where
  name := d.name.text
  receiver := (d.receiver.map fun r => r.type.text).getD ""
  params := keep d.params
  site

/-- The declarations of lines that start with the given one, at byte `offset`. -/
def decls (keep : Params → List ParamGroup) (line offset : Nat) : List Func → List FuncDecl
  | [] => []
  | d :: ds =>
    d.decl keep { line := .ofNat line, column := 1, offset := .ofNat offset } ::
      decls keep (line + 1) (offset + byteSize d.chars) ds

end Func

/-- A source file. -/
structure File where
  package : Ident
  imports : List Import := []
  functions : List Func := []
deriving DecidableEq

namespace File

/-- The import block, from the blank behind its keyword on. -/
def importBlock (f : File) : List Char :=
  ' ' :: '(' :: '\n' :: (f.imports.flatMap Import.chars ++ [')', '\n', '\n'])

/-- The lines in front of the declarations. -/
def preamble (f : File) : List Char :=
  "package".toList ++ ' ' :: (f.package.chars ++ '\n' :: '\n' :: ("import".toList ++ f.importBlock))

def chars (f : File) : List Char := f.preamble ++ f.functions.flatMap Func.chars

def text (f : File) : String := .ofList f.chars

/-- What is to be read from the text of the file, parameters kept in the given way. The preamble has
five lines and one for each import. -/
def reading (keep : Params → List ParamGroup) (path : String) (f : File) : SourceFile where
  path
  imports := .ofList (f.imports.map Import.entry)
  functions := Func.decls keep (f.imports.length + 6) (byteSize f.preamble) f.functions
  hasSyntaxErrors := false

end File

/-- The layout: a method on a pointer, with two names for a slice of a qualified type. -/
example :
    let p : Ident := ⟨'p', [], by decide, by decide, by decide⟩
    let q : Ident := ⟨'q', ['1', '_'], by decide, by decide, by decide⟩
    let f : File :=
      { package := p
        imports := [{ path := ⟨'r', "/s.t".toList, by decide, by decide⟩, name := some (.ident q) }]
        functions := [{
          name := q
          receiver := some { name := p, isPointer := true, type := q }
          params := .named [{ init := [p], last := q, type := .array (.qualified q p) }] }] }
    f.text = "package p\n\nimport (\n\tq1_ \"r/s.t\"\n)\n\n" ++
      "func (p *q1_) q1_(p, q1_ []q1_.p) \x7b\x7d\n" := by
  decide

end Printed
end Go
end RequiredArgs
