/-
# Rules as JSON

Writing leaves out absent names, packages and indices, `false` flags and empty pattern lists;
`args` is always written. Reading refuses unknown and repeated fields, takes `null` for an absent
name, package or index, and asks only for a policy's `type`.
-/

import RequiredArgs.Policy.Basic
import RequiredArgs.Json.Value

namespace RequiredArgs

open Json (Value)

/-- A member that is written only if there is a value. -/
def Json.optionalMember (name : String) (v : Option Value) : List (String × Value) :=
  (v.map fun v => (name, v)).toList

namespace Policy

/-- The fields of a policy, in the order in which they are declared. -/
def fields : List String := ["type", "pkg", "pkg_name", "is_ptr", "is_array", "index"]

/-- A policy as JSON. -/
def toJson (p : Policy) : Value :=
  .obj (("type", .str p.typeName) ::
    (Json.optionalMember "pkg" (p.pkg.map .str) ++
      Json.optionalMember "pkg_name" (p.pkgName.map .str) ++
      Json.optionalMember "is_ptr" (if p.isPtr then some (.bool true) else none) ++
      Json.optionalMember "is_array" (if p.isArray then some (.bool true) else none) ++
      Json.optionalMember "index" (p.index.map fun i => .int i.toInt)))

/-- The policy that a JSON value writes. -/
def ofJson? (v : Value) : Option Policy := do
  let ms ← Json.recordMembers? fields v
  guard (ms.all (fields.contains ·.1) && Json.distinctNames ms)
  let typeName ← Json.field? ms "type" none Value.str?
  let pkg ← Json.field? ms "pkg" (some none) (Value.optional? Value.str?)
  let pkgName ← Json.field? ms "pkg_name" (some none) (Value.optional? Value.str?)
  let isPtr ← Json.field? ms "is_ptr" (some false) Value.bool?
  let isArray ← Json.field? ms "is_array" (some false) Value.bool?
  let index ← Json.field? ms "index" (some none) (Value.optional? Value.int64?)
  return { typeName, pkg, pkgName, isPtr, isArray, index }

end Policy

namespace Rule

/-- The fields of a rule, in the order in which they are declared. -/
def fields : List String := "name" :: "args" :: Gate.all.map Gate.key

/-- A rule as JSON. -/
def toJson (r : Rule) : Value :=
  .obj (Json.optionalMember "name" (r.name.map .str) ++
    ("args", .arr (r.args.map Policy.toJson)) ::
    Gate.all.flatMap fun g =>
      Json.optionalMember g.key
        (if (r.patterns g).isEmpty then none else some (.arr ((r.patterns g).map .str))))

/-- The rule that a JSON value writes. -/
def ofJson? (v : Value) : Option Rule := do
  let ms ← Json.recordMembers? fields v
  guard (ms.all (fields.contains ·.1) && Json.distinctNames ms)
  let strings (g : Gate) := Json.field? ms g.key (some []) (Value.listOf? Value.str?)
  let name ← Json.field? ms "name" (some none) (Value.optional? Value.str?)
  let args ← Json.field? ms "args" (some []) (Value.listOf? Policy.ofJson?)
  let filePatterns ← strings .fileInclude
  let ignoreFilePatterns ← strings .fileExclude
  let funcPatterns ← strings .funcInclude
  let ignoreFuncPatterns ← strings .funcExclude
  let recvPatterns ← strings .recvInclude
  let ignoreRecvPatterns ← strings .recvExclude
  return { name, args, filePatterns, ignoreFilePatterns, funcPatterns, ignoreFuncPatterns,
           recvPatterns, ignoreRecvPatterns }

end Rule
end RequiredArgs
