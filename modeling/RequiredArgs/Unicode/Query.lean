/-
# Looking up sets of characters by name

A set is asked for by one name, of a binary property, a general category or a script in this order,
or by the name and the value of a property. Names are compared without regard to case, blanks, `_`,
`-` and a leading `is`.
-/

import RequiredArgs.Unicode.Property
import RequiredArgs.Unicode.Script
import RequiredArgs.Unicode.Age

namespace RequiredArgs
namespace Unicode

/-- Why a look-up fails. -/
inductive Missing where
  | property
  | value
deriving DecidableEq, Repr

/-- Drops separators and characters beyond ASCII, and puts the rest into lower case. -/
def foldName (cs : List Char) : List Char :=
  (cs.filter fun c => c != ' ' && c != '_' && c != '-' && c.toNat < 128).map Char.toLower

/-- The form in which names are compared. The name `isc` of a property is kept apart from the name
`c` of a category. -/
def normalName (name : String) : String :=
  match name.toList with
  | 'i' :: 's' :: cs | 'I' :: 'S' :: cs | 'i' :: 'S' :: cs | 'I' :: 's' :: cs =>
    let rest := foldName cs
    if rest == ['c'] then "isc" else .ofList rest
  | cs => .ofList (foldName cs)

/-- Properties with values other than yes and no, by whose name alone no set is meant. -/
def valuedProperties : List String := [
  "age", "blk", "block", "bc", "bidiclass", "bmg", "bidimirroringglyph", "bpb", "bidipairedbracket",
  "bpt", "bidipairedbrackettype", "ccc", "canonicalcombiningclass", "casefolding", "dm",
  "decompositionmapping", "dt", "decompositiontype", "ea", "eastasianwidth", "gc",
  "generalcategory", "gcb", "graphemeclusterbreak", "hst", "hangulsyllabletype", "insc",
  "indicsyllabiccategory", "inpc", "indicpositionalcategory", "isc", "isocomment", "jg",
  "joininggroup", "jt", "joiningtype", "lb", "linebreak", "lowercasemapping", "na", "name", "na1",
  "unicode1name", "nt", "numerictype", "nv", "numericvalue", "sb", "sentencebreak", "script", "scx",
  "scriptextensions", "scf", "simplecasefolding", "slc", "simplelowercasemapping", "stc",
  "simpletitlecasemapping", "suc", "simpleuppercasemapping", "tc", "titlecasemapping", "uc",
  "uppercasemapping", "vo", "verticalorientation", "wb", "wordbreak"]

/-- Short names shared by a property and a category; alone, they name the category. -/
def sharedNames : List String := ["cf", "sc", "lc"]

/-- A general category, or one of the sets `Any`, `Assigned` and `ASCII`. -/
def category? (name : String) : Option CharSet :=
  match name with
  | "any" => some (.range 0 maxCode)
  | "assigned" => some unassigned.complement
  | "ascii" => some (.range 0 0x7F)
  | _ => generalCategory? name

/-- The set with this name. -/
def namedSet (name : String) : Except Missing CharSet :=
  let name := normalName name
  match if sharedNames.contains name then none else binaryProperty? name with
  | some s => .ok s
  | none =>
    if valuedProperties.contains name then .error .property
    else match category? name with
      | some s => .ok s
      | none =>
        match script? name with
        | some s => .ok s.members
        | none =>
          if vacantScripts.contains name || ["cs", "surrogate"].contains name then .error .value
          else .error .property

/-- The characters for which the property has this value. -/
def valuedSet (name value : String) : Except Missing CharSet :=
  let name := normalName name
  let value := normalName value
  let found :=
    if name == "gc" || name == "generalcategory" then some (category? value)
    else if name == "sc" || name == "script" then some ((script? value).map Script.members)
    else if name == "scx" || name == "scriptextensions" then
      some ((script? value).map Script.extended)
    else if name == "age" then some (assignedBy? value)
    else if valuedProperties.contains name || sharedNames.contains name
        || (binaryProperty? name).isSome then some none
    else none
  match found with
  | some (some s) => .ok s
  | some none => .error .value
  | none => .error .property

end Unicode
end RequiredArgs
