/-
# Checking declarations

A rule is asked of every declaration that is in its scope, `init` and `main` apart. What it finds is
one diagnostic for the declaration: the policies that are unmet, or the scope pattern that cannot be
used. The report of a run lists the diagnostics by file, then by the place of the declaration, then by
rule.
-/

import RequiredArgs.Scope
import RequiredArgs.Matching
import RequiredArgs.Extraction
import RequiredArgs.Report.Basic
import RequiredArgs.Go.Syntax.Source

namespace RequiredArgs

open Go (SourceFile FuncDecl)

/-- The names by which the rules select the declaration. -/
def Context.target (c : Context) : Target :=
  { file := c.fileName, func := c.funcName, recv := c.receiver }

/-- A diagnostic of the rule with the given index and label at a declaration. -/
def Context.diagnose (c : Context) (site : Site) (kind : DiagnosticKind) (index : Nat)
    (label message : String) : Diagnostic where
  kind := kind
  code := kind.code
  file := c.fileName
  line := site.line
  column := site.column
  offset := site.offset
  function := c.funcName
  rule := label
  ruleIndex := index
  message := message

/-- What the rule with the given index finds at a declaration. -/
def Rule.check (r : Rule) (index : Nat) (c : Context) (site : Site) : Option Diagnostic :=
  match r.applies c.target with
  | .error e => some (c.diagnose site .invalidPattern index (r.label index) e.message)
  | .ok false => none
  | .ok true =>
    match r.unmet c with
    | [] => none
    | unmet =>
      some (c.diagnose site .unmetPolicies index (r.label index) (unmetMessage unmet c.funcName))

/-- What the rules find at a declaration, in the order of the rules. -/
def checkFunction (rules : List Rule) (c : Context) (site : Site) : List Diagnostic :=
  if c.isLifecycleHook then []
  else rules.zipIdx.filterMap fun (r, i) => r.check i c site

/-- What the rules find in a file, in the order of its declarations. -/
def checkFile (rules : List Rule) (f : SourceFile) : List Diagnostic :=
  f.functions.flatMap fun d => checkFunction rules (d.context f.path f.imports) d.site

namespace Diagnostic

/-- The order of a report: by file, by the place of the declaration, by rule. -/
def precedes (a b : Diagnostic) : Bool :=
  decide (a.file < b.file) || (a.file == b.file &&
    (decide (a.offset < b.offset) || (a.offset == b.offset && decide (a.ruleIndex ≤ b.ruleIndex))))

end Diagnostic

/-- The version that reports carry. -/
def version : String := "0.3.0"

/-- The declarations of all files. -/
def declarations (files : List SourceFile) : List FuncDecl := files.flatMap (·.functions)

/-- The declaration is one of `init` and `main`. -/
def Go.FuncDecl.isLifecycleHook (d : FuncDecl) : Bool := Context.lifecycleHooks.contains d.name

/-- The report of the rules on parsed files. Reading a source gives its declarations whatever it holds,
errors included, and there is no limit of time on it, so no file ever counts as one that could not be
parsed. -/
def checkParsed (rules : List Rule) (files : List SourceFile) : Report :=
  let found := files.flatMap (checkFile rules)
  { version
    command := "check"
    status := if found.isEmpty then "ok" else "error"
    filesAnalyzed := (files.map (·.path)).mergeSort fun a b => decide (a ≤ b)
    diagnostics := found.mergeSort Diagnostic.precedes
    info := {
      rules := rules.length.toUInt32
      functionsAnalyzed := ((declarations files).countP (!·.isLifecycleHook)).toUInt32
      functionsSkipped := ((declarations files).countP (·.isLifecycleHook)).toUInt32
      parseFailures := 0 } }

/-- The report of the rules on files given by path and content. -/
def checkSources (rules : List Rule) (sources : List (String × String)) : Report :=
  checkParsed rules (sources.map fun (path, text) => SourceFile.parse path text)

end RequiredArgs
