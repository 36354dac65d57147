/-
# Configurations as YAML

A configuration, a rule and a policy are mappings with known keys, of which none may be repeated; a
policy must have its `type`. A value that is left out altogether is an empty mapping or sequence, an
absent option or an empty string, as the key asks. Of several errors the first one in the text is
reported, with the path of the value and the place where it stands.
-/

import RequiredArgs.Config.Basic
import RequiredArgs.Yaml.Reader
import RequiredArgs.Yaml.Schema

namespace RequiredArgs

open Yaml (Node Mark)

/-- A value that is not of the shape of a configuration. -/
structure Config.ShapeError where
  /-- The path of the value, empty for the whole document. -/
  path : String
  problem : String
  mark : Mark
deriving DecidableEq, Repr

/-- The wording of an error: the path, what is wrong, and the place. -/
def Config.ShapeError.message (e : ShapeError) : String :=
  (if e.path.isEmpty then "" else e.path ++ ": ") ++ e.problem ++ e.mark.suffix

/-- Why a text is no configuration. -/
inductive Config.ParseError where
  | malformed (fault : Yaml.Fault)
  | misshapen (error : Config.ShapeError)
  | manyDocuments
deriving DecidableEq, Repr

/-- The wording of an error. -/
def Config.ParseError.message : ParseError → String
  | malformed fault => fault.message
  | misshapen error => error.message
  | manyDocuments => "deserializing from YAML containing more than one document is not supported"

namespace Config.Decode

/-- Decoders of a value at some path. -/
abbrev Decodes (α : Type) := String → Node → Except ParseError α

/-- The path of the value under a key. -/
def keyPath (path key : String) : String := if path.isEmpty then key else path ++ "." ++ key

/-- The path of an item. -/
def itemPath (path : String) (i : Nat) : String := s!"{path}[{i}]"

/-- The value is left out. -/
def isVoid : Node → Bool
  | .scalar _ _ .plain text => text.isEmpty
  | _ => false

/-- Stops at a value that is not of the right shape. -/
def misshapen {α : Type} (path problem : String) (mark : Mark) : Except ParseError α :=
  .error (.misshapen { path, problem, mark })

/-- The error for a node that is not what was expected; where the text breaks off, that is the error. -/
def unexpected {α : Type} (expected path : String) : Node → Except ParseError α
  | .scalar mark p style text =>
    misshapen path (Yaml.mismatch p style text expected) mark
  | .seq mark _ _ => misshapen path s!"invalid type: sequence, expected {expected}" mark
  | .map mark _ _ | .reference mark _ => misshapen path s!"invalid type: map, expected {expected}" mark
  | .cut fault => .error (.malformed fault)

/-- The node that an alias stands for in the document. -/
def resolve (root : Node) : Node → Node
  | .reference mark n => (root.anchored? n).getD (.reference mark n)
  | n => n

/-- Any scalar is a string as it stands. -/
def string (root : Node) : Decodes String := fun path n =>
  match resolve root n with
  | .scalar _ _ _ text => .ok text
  | n => unexpected "a string" path n

/-- Booleans are plain. -/
def bool (root : Node) : Decodes Bool := fun path n =>
  match resolve root n with
  | .scalar m p style text =>
    match Yaml.bool? text with
    | some b => if style = .plain then .ok b else unexpected "a boolean" path (.scalar m p style text)
    | none => unexpected "a boolean" path (.scalar m p style text)
  | n => unexpected "a boolean" path n

/-- Integers are plain. -/
def int64 (root : Node) : Decodes Int64 := fun path n =>
  match resolve root n with
  | .scalar m p style text =>
    match Yaml.int64? text with
    | some i => if style = .plain then .ok i else unexpected "i64" path (.scalar m p style text)
    | none => unexpected "i64" path (.scalar m p style text)
  | n => unexpected "i64" path n

/-- A plain scalar for nothing is an absent value, and a plain scalar that is tagged as nothing must be
one. -/
def option {α : Type} (root : Node) (f : Decodes α) : Decodes (Option α) := fun path n =>
  match resolve root n with
  | .scalar mark p .plain text =>
    match p.tag with
    | none => if text.isEmpty || Yaml.isNull text then .ok none else (f path n).map some
    | some tag =>
      if tag != Yaml.coreTag "null" then (f path n).map some
      else if Yaml.isNull text then .ok none
      else unexpected "null" path (.scalar mark p .plain text)
  | _ => (f path n).map some

/-- The items of a sequence, each at its own path. -/
def items {α : Type} (f : Decodes α) (path : String) : Nat → List Node → Except ParseError (List α)
  | _, [] => .ok []
  | i, n :: ns => do
    let a ← f (itemPath path i) n
    let as ← items f path (i + 1) ns
    return a :: as

/-- A sequence. -/
def list {α : Type} (root : Node) (f : Decodes α) : Decodes (List α) := fun path n =>
  match resolve root n with
  | .seq _ _ ns => items f path 0 ns
  | n => if isVoid n then .ok [] else unexpected "a sequence" path n

/-- The names of fields, each between backquotes. -/
def fieldNames (fields : List String) : String :=
  let quoted := fields.map fun f => s!"`{f}`"
  if fields.length = 1 then ", ".intercalate quoted else "one of " ++ ", ".intercalate quoted

/-- The name of a field. -/
def key (root : Node) (fields : List String) : Decodes String := fun path n =>
  match resolve root n with
  | .scalar mark _ _ text =>
    if fields.contains text then .ok text
    else misshapen path s!"unknown field `{text}`, expected {fieldNames fields}" mark
  | n => unexpected "field identifier" path n

/-- Reads the entries of a mapping one after the other into `a`; `seen` are the keys before. -/
def entries {α : Type} (root : Node) (fields : List String) (path : String) (mark : Mark)
    (set : String → String → Node → α → Except ParseError α) :
    List (Node × Node) → List String → α → Except ParseError (α × List String)
  | [], seen, a => .ok (a, seen)
  | (k, v) :: rest, seen, a => do
    let name ← key root fields path k
    if seen.contains name then misshapen path s!"duplicate field `{name}`" mark
    let a ← set name (keyPath path name) v a
    entries root fields path mark set rest (name :: seen) a

/-- A mapping with known keys, read into `a`. -/
def struct {α : Type} (root : Node) (name : String) (fields required : List String)
    (set : String → String → Node → α → Except ParseError α) (a : α) : Decodes α := fun path n =>
  let n := resolve root n
  let read (es : List (Node × Node)) : Except ParseError α := do
    let (a, seen) ← entries root fields path n.mark set es [] a
    match required.find? (!seen.contains ·) with
    | some f => misshapen path s!"missing field `{f}`" n.mark
    | none => return a
  match n with
  | .map _ _ es => read es
  | n => if isVoid n then read [] else unexpected s!"struct {name}" path n

/-- Sets one field of a policy. -/
def setPolicy (root : Node) (field path : String) (v : Node) (p : Policy) :
    Except ParseError Policy :=
  match field with
  | "type" => return { p with typeName := ← string root path v }
  | "pkg" => return { p with pkg := ← option root (string root) path v }
  | "pkg_name" => return { p with pkgName := ← option root (string root) path v }
  | "is_ptr" => return { p with isPtr := ← bool root path v }
  | "is_array" => return { p with isArray := ← bool root path v }
  | "index" => return { p with index := ← option root (int64 root) path v }
  | _ => return p

/-- A policy. -/
def policy (root : Node) : Decodes Policy :=
  struct root "ArgumentPolicy" Policy.fields ["type"] (setPolicy root) { typeName := "" }

/-- Sets one field of a rule. -/
def setRule (root : Node) (field path : String) (v : Node) (r : Rule) : Except ParseError Rule :=
  let patterns := list root (string root) path v
  match field with
  | "name" => return { r with name := ← option root (string root) path v }
  | "args" => return { r with args := ← list root (policy root) path v }
  | "file_patterns" => return { r with filePatterns := ← patterns }
  | "ignore_file_patterns" => return { r with ignoreFilePatterns := ← patterns }
  | "func_patterns" => return { r with funcPatterns := ← patterns }
  | "ignore_func_patterns" => return { r with ignoreFuncPatterns := ← patterns }
  | "recv_patterns" => return { r with recvPatterns := ← patterns }
  | "ignore_recv_patterns" => return { r with ignoreRecvPatterns := ← patterns }
  | _ => return r

/-- A rule. -/
def rule (root : Node) : Decodes Rule := struct root "Rule" Rule.fields [] (setRule root) {}

/-- Sets one field of a configuration. -/
def setConfig (root : Node) (field path : String) (v : Node) (c : Config) :
    Except ParseError Config :=
  match field with
  | "rules" => return { c with rules := ← list root (rule root) path v }
  | _ => return c

/-- A configuration, which is the whole of a document. -/
def config (root : Node) : Except ParseError Config :=
  struct root "Config" ["rules"] [] (setConfig root) {} "" root

end Config.Decode

namespace Config

/-- Reads the configuration that a YAML text writes, without validating it. -/
def decode (text : String) : Except ParseError Config :=
  let stream := Yaml.Stream.ofText text
  match stream.root with
  | none => .ok {}
  | some root =>
    match Decode.config root with
    | .error e => .error e
    | .ok c => if stream.hasMore then .error .manyDocuments else .ok c

/-- Why a configuration cannot be used. -/
inductive LoadError where
  /-- The file at `path` cannot be read. -/
  | unreadable (path reason : String)
  | malformed (error : ParseError)
  | invalid (error : Invalid)
  | notFound
deriving DecidableEq, Repr

/-- The file names under which a configuration is looked for, in this order. -/
def defaultNames : List String := ["argguard.yaml", ".argguard.yaml"]

/-- The wording of an error. -/
def LoadError.message : LoadError → String
  | unreadable path reason => s!"failed to read {path}: {reason}"
  | malformed e => "invalid configuration syntax: " ++ e.message
  | invalid e => e.message
  | notFound =>
    "no configuration file found (tried " ++ ", ".intercalate defaultNames ++ ")"

/-- Reads and validates a configuration; a text of white space only is the empty one. -/
def ofYaml (text : String) : Except LoadError Config :=
  if Text.allBlank text then .ok {}
  else match decode text with
    | .error e => .error (.malformed e)
    | .ok c =>
      match c.validate with
      | .error e => .error (.invalid e)
      | .ok c => .ok c

end Config
end RequiredArgs
