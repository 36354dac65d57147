/-
# Argument policies and the rules that bundle them

A `Policy` asks for one parameter of a given type; a `Rule` bundles policies and restricts, by six
lists of patterns, the declarations they are asked of. Each list stands behind one `Gate`:

| gate | key | candidate | lets through |
| --- | --- | --- | --- |
| `fileInclude` | `file_patterns` | file name | a match |
| `fileExclude` | `ignore_file_patterns` | file name | no match |
| `funcInclude` | `func_patterns` | function name | a match |
| `funcExclude` | `ignore_func_patterns` | function name | no match |
| `recvInclude` | `recv_patterns` | receiver type | a match |
| `recvExclude` | `ignore_recv_patterns` | receiver type | no match |
-/

namespace RequiredArgs

/-- One required argument: its type, and where it must stand. -/
structure Policy where
  /-- The name of the type, without package, pointer or array marks. -/
  typeName : String
  /-- The import path the type must come from. -/
  pkg : Option String := none
  /-- The alias the declaration must use for that path. -/
  pkgName : Option String := none
  isPtr : Bool := false
  isArray : Bool := false
  /-- The slot from the front, or from the end when negative; anywhere when absent. -/
  index : Option Int64 := none
deriving DecidableEq, Repr, Inhabited

namespace Policy

/-- How the package is named in messages: by the alias if there is one, else by the path. -/
def namespaceLabel (p : Policy) : Option String := p.pkgName.or p.pkg

/-- The type as a declaration would spell it: `[]*ns.Type`. -/
def spelling (p : Policy) : String :=
  (if p.isArray then "[]" else "") ++ (if p.isPtr then "*" else "") ++
    (match p.namespaceLabel with
      | some ns => ns ++ "."
      | none => "") ++ p.typeName

end Policy

/-- One of the six pattern lists of a rule. -/
inductive Gate where
  | fileInclude | fileExclude | funcInclude | funcExclude | recvInclude | recvExclude
deriving DecidableEq, Repr, Inhabited

namespace Gate

/-- The gates in the order in which a declaration passes them. -/
def all : List Gate :=
  [fileInclude, fileExclude, funcInclude, funcExclude, recvInclude, recvExclude]

/-- The configuration key of the list behind the gate. -/
def key : Gate → String
  | fileInclude => "file_patterns"
  | fileExclude => "ignore_file_patterns"
  | funcInclude => "func_patterns"
  | funcExclude => "ignore_func_patterns"
  | recvInclude => "recv_patterns"
  | recvExclude => "ignore_recv_patterns"

/-- How the gate is called in the listing of rules. -/
def caption : Gate → String
  | fileInclude => "files"
  | fileExclude => "ignore files"
  | funcInclude => "funcs"
  | funcExclude => "ignore funcs"
  | recvInclude => "receivers"
  | recvExclude => "ignore receivers"

/-- An including gate opens on a match, an excluding one closes on it. -/
def isInclude : Gate → Bool
  | fileInclude | funcInclude | recvInclude => true
  | fileExclude | funcExclude | recvExclude => false

end Gate

/-- A bundle of policies and the patterns that say which declarations it is for. -/
structure Rule where
  name : Option String := none
  args : List Policy := []
  filePatterns : List String := []
  ignoreFilePatterns : List String := []
  funcPatterns : List String := []
  ignoreFuncPatterns : List String := []
  recvPatterns : List String := []
  ignoreRecvPatterns : List String := []
deriving DecidableEq, Repr, Inhabited

namespace Rule

/-- The pattern list behind a gate. -/
def patterns (r : Rule) : Gate → List String
  | .fileInclude => r.filePatterns
  | .fileExclude => r.ignoreFilePatterns
  | .funcInclude => r.funcPatterns
  | .funcExclude => r.ignoreFuncPatterns
  | .recvInclude => r.recvPatterns
  | .recvExclude => r.ignoreRecvPatterns

/-- The rule's name, or `rule #n` counted from one when it has none or an empty one. -/
def label (r : Rule) (i : Nat) : String :=
  match r.name with
  | some name => if name.isEmpty then s!"rule #{i + 1}" else name
  | none => s!"rule #{i + 1}"

/-- No gate has a pattern, so the rule is for every declaration. -/
def isUnscoped (r : Rule) : Bool := Gate.all.all fun g => (r.patterns g).isEmpty

end Rule
end RequiredArgs
