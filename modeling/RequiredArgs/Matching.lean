/-
# Which policies a declaration meets

A policy is met when some descriptor agrees with it on the type's name, on the pointer and array
flags, on the package if the policy names one, and on the slot if the policy has an index. An index
`i ≥ 0` is the slot `i`; an index `i < 0` is the slot `n + i`, where `n` is the number of descriptors.
-/

import RequiredArgs.Policy.Basic
import RequiredArgs.Descriptor

namespace RequiredArgs

/-- The slot that an index designates among `count` descriptors; a negative number is no slot. -/
def targetSlot (index : Int64) (count : Nat) : Int64 :=
  if 0 ≤ index then index else Int64.ofNat count + index

/-- The index, if there is one, designates the slot `position` among `count` descriptors. -/
def indexMatches (index : Option Int64) (position count : Nat) : Bool :=
  match index with
  | none => true
  | some i => decide (0 ≤ targetSlot i count) && (targetSlot i count).toInt == (position : Int)

namespace Policy

/-- The descriptor's type comes from the package that the policy names, if it names one. -/
def namespaceMatches (p : Policy) (d : Descriptor) : Bool :=
  match p.pkg with
  | none => true
  | some path =>
    d.namespacePath == some path &&
      match p.pkgName with
      | some name => d.namespaceAlias == some name
      | none => true

/-- The descriptor agrees with the policy on everything but the slot. -/
def matchesType (p : Policy) (d : Descriptor) : Bool :=
  d.typeName == p.typeName && d.isPointer == p.isPtr && d.isArray == p.isArray &&
    p.namespaceMatches d

/-- Some parameter of the declaration is what the policy asks for. -/
def isMet (p : Policy) (c : Context) : Bool :=
  c.descriptors.any fun d =>
    indexMatches p.index d.position c.descriptors.length && p.matchesType d

/-- What an unmet policy misses: `no []*ns.Type type arg at index 1`. -/
def clause (p : Policy) : String :=
  "no " ++ p.spelling ++ " type arg" ++
    match p.index with
    | some i => s!" at index {i.toInt}"
    | none => ""

end Policy

/-- The policies of a rule that a declaration does not meet, in the rule's order. -/
def Rule.unmet (r : Rule) (c : Context) : List Policy := r.args.filter fun p => !p.isMet c

/-- One clause for each unmet policy, and the name of the function. -/
def unmetMessage (unmet : List Policy) (funcName : String) : String :=
  ", ".intercalate (unmet.map Policy.clause) ++ " found for func " ++ funcName

end RequiredArgs
