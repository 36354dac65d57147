/-
# From declarations to descriptors

Extraction walks the slots of a declaration from the first to the last. A slot whose shape reduces
gives one descriptor, at that slot's number; any other slot gives none, but still counts.
-/

import RequiredArgs.Go.Declaration

namespace RequiredArgs

open Go (FuncDecl ImportTable Reduced)

/-- The descriptor of a reduced type in a slot of a file with the given imports. -/
def Go.Reduced.toDescriptor (r : Reduced) (position : Nat) (imports : ImportTable) : Descriptor where
  position
  typeName := r.typeName
  namespacePath := r.qualifier.bind imports.resolve?
  namespaceAlias := r.qualifier
  isPointer := r.isPointer
  isArray := r.isArray

namespace Go.FuncDecl

/-- The descriptors of a declaration, in slot order. -/
def descriptors (d : FuncDecl) (imports : ImportTable) : List Descriptor :=
  d.slotShapes.zipIdx.filterMap fun (shape, slot) =>
    shape.reduce?.map fun r => r.toDescriptor slot imports

/-- The declaration as the rules see it. -/
def context (d : FuncDecl) (fileName : String) (imports : ImportTable) : Context where
  fileName
  funcName := d.name
  receiver := d.receiver
  descriptors := d.descriptors imports

end Go.FuncDecl
end RequiredArgs
