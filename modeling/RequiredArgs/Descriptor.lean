/-
# What is known of a declaration

A `Descriptor` summarises one parameter of a function, a `Context` the whole declaration: the file,
the function, the receiver's type and the parameters that could be summarised. A parameter keeps the
number of the slot it was declared in, also when parameters before it could not be summarised.
-/

import RequiredArgs.Json.Value

namespace RequiredArgs

open Json (Value)

/-- One parameter: its slot and its type. -/
structure Descriptor where
  /-- The slot, counted from zero over all declared parameters. -/
  position : Nat
  typeName : String
  /-- The import path behind the qualifier, if the file imports it. -/
  namespacePath : Option String := none
  /-- The qualifier as written. -/
  namespaceAlias : Option String := none
  isPointer : Bool := false
  isArray : Bool := false
deriving DecidableEq, Repr, Inhabited

namespace Descriptor

/-- The type as declared: `[]*alias.Type`. -/
def spelling (d : Descriptor) : String :=
  (if d.isArray then "[]" else "") ++ (if d.isPointer then "*" else "") ++
    (match d.namespaceAlias with
      | some a => a ++ "."
      | none => "") ++ d.typeName

/-- The fields of a descriptor, in the order in which they are declared. -/
def fields : List String :=
  ["position", "type_name", "namespace_path", "namespace_alias", "is_pointer", "is_array"]

/-- The descriptor that a JSON value writes; fields of other names are skipped. -/
def ofJson? (v : Value) : Option Descriptor := do
  let ms ← Json.recordMembers? fields v
  let position ← Json.field? ms "position" none Value.word64?
  let typeName ← Json.field? ms "type_name" none Value.str?
  let namespacePath ← Json.field? ms "namespace_path" (some none) (Value.optional? Value.str?)
  let namespaceAlias ← Json.field? ms "namespace_alias" (some none) (Value.optional? Value.str?)
  let isPointer ← Json.field? ms "is_pointer" none Value.bool?
  let isArray ← Json.field? ms "is_array" none Value.bool?
  return { position := position.toNat, typeName, namespacePath, namespaceAlias, isPointer, isArray }

end Descriptor

/-- One function declaration, as the rules see it. -/
structure Context where
  fileName : String
  funcName : String
  /-- Empty for a function without receiver. -/
  receiver : String
  descriptors : List Descriptor
deriving DecidableEq, Repr, Inhabited

namespace Context

/-- The functions that the language runs by itself; no rule is asked of them. -/
def lifecycleHooks : List String := ["init", "main"]

/-- The function is `init` or `main`. -/
def isLifecycleHook (c : Context) : Bool := lifecycleHooks.contains c.funcName

/-- The fields of a context, in the order in which they are declared. -/
def fields : List String := ["file_name", "func_name", "receiver_type_name", "descriptors"]

/-- The context that a JSON value writes; fields of other names are skipped. -/
def ofJson? (v : Value) : Option Context := do
  let ms ← Json.recordMembers? fields v
  let fileName ← Json.field? ms "file_name" none Value.str?
  let funcName ← Json.field? ms "func_name" none Value.str?
  let receiver ← Json.field? ms "receiver_type_name" none Value.str?
  let descriptors ← Json.field? ms "descriptors" none (Value.listOf? Descriptor.ofJson?)
  return { fileName, funcName, receiver, descriptors }

end Context

/-- The start of a declaration: line and column counted from one, columns and offset in bytes. -/
structure Site where
  line : UInt32 := 0
  column : UInt32 := 0
  offset : UInt64 := 0
deriving DecidableEq, Repr, Inhabited

namespace Site

/-- The fields of a site, in the order in which they are declared. -/
def fields : List String := ["line", "column", "offset"]

/-- The site that a JSON value writes; fields of other names are skipped. -/
def ofJson? (v : Value) : Option Site := do
  let ms ← Json.recordMembers? fields v
  let line ← Json.field? ms "line" none Value.word32?
  let column ← Json.field? ms "column" none Value.word32?
  let offset ← Json.field? ms "offset" none Value.word64?
  return { line, column, offset }

end Site
end RequiredArgs
