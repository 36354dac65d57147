/-
# Types and parameters as written

`TypeExpr` is the syntax of a declared type as far as it matters here: pointers, arrays and
parentheses around a name, and the kind of everything else. `TypeExpr.shape` drops the parentheses
and the difference between slices and arrays; `TypeExpr.receiverName` is the name of the type that a
method belongs to.
-/

import RequiredArgs.Go.Shape

namespace RequiredArgs
namespace Go

/-- The syntax of a type. -/
inductive TypeExpr where
  /-- `T` -/
  | name (n : String)
  /-- `q.T` -/
  | qualified (q n : String)
  /-- `*X` -/
  | pointer (t : TypeExpr)
  /-- `[]X` -/
  | slice (t : TypeExpr)
  /-- `[n]X` -/
  | array (t : TypeExpr)
  /-- `(X)` -/
  | paren (t : TypeExpr)
  /-- `~X` -/
  | negated (t : TypeExpr)
  /-- `T[…]`, the base being a name, qualified or not -/
  | generic (base : TypeExpr)
  | map
  | channel
  | function
  | interface
  | struct
deriving DecidableEq, Repr, Inhabited

namespace TypeExpr

/-- The shape of a type. -/
def shape : TypeExpr → Shape
  | name n => .ident n
  | qualified q n => .qualified q n
  | pointer t => .pointer t.shape
  | slice t => .array t.shape
  | array t => .array t.shape
  | paren t => t.shape
  | negated _ => .unsupported .other
  | generic _ => .unsupported .generic
  | map => .unsupported .map
  | channel => .unsupported .channel
  | function => .unsupported .function
  | interface => .unsupported .interface
  | struct => .unsupported .struct

/-- The unqualified name under the pointers, parentheses and type arguments of a receiver's type, or
the empty name if there is none. -/
def receiverName : TypeExpr → String
  | name n => n
  | pointer t => t.receiverName
  | paren t => t.receiverName
  | generic base => base.receiverName
  | _ => ""

end TypeExpr

/-- One parameter declaration: names, which may be missing, and a type. -/
structure Param where
  names : List String := []
  type : TypeExpr
  isVariadic : Bool := false
deriving DecidableEq, Repr, Inhabited

/-- The name of the type that a method with this receiver list belongs to. -/
def receiverOf (receiver : List Param) : String :=
  match receiver.find? (!·.isVariadic) with
  | some p => p.type.receiverName
  | none => ""

end Go
end RequiredArgs
