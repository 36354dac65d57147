/-
# Configurations

A configuration is a list of rules. It is valid when every policy names a type, gives the path
along with an alias, and gives no empty path; of several faults the first is reported, rule by rule,
policy by policy, in that order of checks.
-/

import RequiredArgs.Text.Blank
import RequiredArgs.Policy.Json

namespace RequiredArgs

/-- The rules of one run. -/
structure Config where
  rules : List Rule := []
deriving DecidableEq, Repr, Inhabited

/-- What can be wrong with a policy that has the right fields. -/
inductive Policy.Fault where
  | emptyType
  | aliasWithoutPath
  | emptyPath
deriving DecidableEq, Repr

namespace Policy

/-- The wording of a fault. -/
def Fault.message : Fault → String
  | .emptyType => "`type` must not be empty"
  | .aliasWithoutPath => "`pkg_name` requires `pkg`"
  | .emptyPath => "`pkg` must not be empty"

/-- The first fault of a policy. -/
def fault? (p : Policy) : Option Fault :=
  if Text.allBlank p.typeName then some .emptyType
  else if p.pkgName.isSome && p.pkg.isNone then some .aliasWithoutPath
  else if p.pkg = some "" then some .emptyPath
  else none

end Policy

/-- The place and kind of the first fault of a configuration. -/
structure Config.Invalid where
  /-- The label of the rule. -/
  rule : String
  /-- The number of the policy within its rule. -/
  policy : Nat
  fault : Policy.Fault
deriving DecidableEq, Repr

namespace Config

/-- Where in its rule the fault is, and what it is. -/
def Invalid.detail (e : Invalid) : String := s!"args[{e.policy}]: {e.fault.message}"

/-- The rule's label and the detail. -/
def Invalid.message (e : Invalid) : String := s!"{e.rule}: {e.detail}"

/-- The first faulty policy of a rule. -/
def ruleFault? (r : Rule) : Option (Nat × Policy.Fault) :=
  r.args.zipIdx.findSome? fun (p, j) => p.fault?.map fun f => (j, f)

/-- The first fault of a configuration. -/
def invalid? (c : Config) : Option Invalid :=
  c.rules.zipIdx.findSome? fun (r, i) =>
    (ruleFault? r).map fun (j, fault) => { rule := r.label i, policy := j, fault }

/-- Passes a valid configuration on. -/
def validate (c : Config) : Except Invalid Config :=
  match c.invalid? with
  | some e => .error e
  | none => .ok c

/-- The number of policies of all rules. -/
def policyCount (c : Config) : Nat := c.rules.foldr (fun r n => r.args.length + n) 0

/-- A configuration as JSON. -/
def toJson (c : Config) : Json.Value := .obj [("rules", .arr (c.rules.map Rule.toJson))]

/-- The configuration that a JSON value writes. -/
def ofJson? (v : Json.Value) : Option Config := do
  let ms ← Json.recordMembers? ["rules"] v
  guard (ms.all (["rules"].contains ·.1) && Json.distinctNames ms)
  let rules ← Json.field? ms "rules" (some []) (Json.Value.listOf? Rule.ofJson?)
  return { rules }

end Config
end RequiredArgs
