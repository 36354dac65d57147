/-
# Function declarations

What the front end keeps of a source file: its imports and, in source order, its function and method
declarations with their parameter groups. A group `a, b T` is one type under several names; an
unnamed parameter is a group without names.
-/

import RequiredArgs.Descriptor
import RequiredArgs.Go.Shape
import RequiredArgs.Go.Imports

namespace RequiredArgs
namespace Go

/-- Parameters that share one declared type. -/
structure ParamGroup where
  names : List String := []
  shape : Shape
deriving DecidableEq, Repr, Inhabited

/-- How many parameters a group declares: one for each name, and one if it has none. -/
def ParamGroup.slots (g : ParamGroup) : Nat := max g.names.length 1

/-- A function or method declaration. -/
structure FuncDecl where
  name : String
  /-- The receiver's type name, empty for a function. -/
  receiver : String := ""
  params : List ParamGroup := []
  site : Site := {}
deriving DecidableEq, Repr, Inhabited

namespace FuncDecl

/-- The number of declared parameters. -/
def arity (d : FuncDecl) : Nat := d.params.foldr (fun g n => g.slots + n) 0

/-- The shape of each declared parameter, slot by slot. -/
def slotShapes (d : FuncDecl) : List Shape :=
  d.params.flatMap fun g => List.replicate g.slots g.shape

end FuncDecl

/-- What is kept of a source file. -/
structure SourceFile where
  path : String
  imports : ImportTable
  functions : List FuncDecl
  hasSyntaxErrors : Bool
deriving DecidableEq, Repr, Inhabited

end Go
end RequiredArgs
