/-
# Shapes of parameter types

A `Shape` keeps of a declared type what the rules can ask for: the name, its qualifier, and the
pointers and arrays around it. Every other kind of type is `unsupported`.

A shape reduces to a base type with two flags when it is one of six, `X` being `T` or `alias.T`:

| declared | array | pointer |
| --- | --- | --- |
| `X` | no | no |
| `*X` | no | yes |
| `[]X` | yes | no |
| `[]*X` | yes | yes |
| `*[]X` | yes | no |
| `*[]*X` | yes | yes |

The pointer in front of an array is not kept.
-/

namespace RequiredArgs
namespace Go

/-- The kinds of types that no policy can ask for. -/
inductive UnsupportedKind where
  | map | variadic | function | channel | interface | struct | generic | other
deriving DecidableEq, Repr, Inhabited

namespace UnsupportedKind

/-- The word for a kind. -/
def word : UnsupportedKind → String
  | map => "map"
  | variadic => "variadic"
  | function => "function"
  | channel => "channel"
  | interface => "interface"
  | struct => "struct"
  | generic => "generic"
  | other => "other"

/-- All kinds. -/
def all : List UnsupportedKind :=
  [map, variadic, function, channel, interface, struct, generic, other]

/-- The kind that a word names. -/
def ofWord? (w : String) : Option UnsupportedKind := all.find? (·.word == w)

end UnsupportedKind

/-- What is kept of a declared type. -/
inductive Shape where
  /-- `T` -/
  | ident (name : String)
  /-- `alias.T` -/
  | qualified (qualifier name : String)
  /-- `*X` -/
  | pointer (inner : Shape)
  /-- `[]X` or `[n]X` -/
  | array (element : Shape)
  | unsupported (kind : UnsupportedKind)
deriving DecidableEq, Repr, Inhabited

/-- A base type and the marks around it. -/
structure Reduced where
  typeName : String
  qualifier : Option String := none
  isPointer : Bool := false
  isArray : Bool := false
deriving DecidableEq, Repr

namespace Shape

/-- `X`: a type name, qualified or not. -/
def base? : Shape → Option Reduced
  | ident name => some { typeName := name }
  | qualified q name => some { typeName := name, qualifier := some q }
  | _ => none

/-- `X` or `*X`. -/
def element? : Shape → Option Reduced
  | pointer inner => inner.base?.map fun r => { r with isPointer := true }
  | s => s.base?

/-- The base type and flags of one of the six shapes, and `none` for any other. -/
def reduce? : Shape → Option Reduced
  | array element => element.element?.map fun r => { r with isArray := true }
  | pointer (array element) => element.element?.map fun r => { r with isArray := true }
  | pointer inner => inner.base?.map fun r => { r with isPointer := true }
  | s => s.base?

/-- The shape reduces to a base type. -/
def isSupported (s : Shape) : Bool := s.reduce?.isSome

end Shape
end Go
end RequiredArgs
