/-
# Reports and configurations for the terminal

A diagnostic is three lines, in the manner of a compiler; a summary line ends the report, and a
clean run prints nothing. The listing of rules gives each rule's label, its requirements and its
scope.
-/

import RequiredArgs.Config.Basic
import RequiredArgs.Report.Basic

namespace RequiredArgs

/-- The three lines of a diagnostic. -/
def Diagnostic.human (d : Diagnostic) : String :=
  s!"error[{d.code}]: {d.message}\n  --> {d.file}:{d.line.toNat}:{d.column.toNat}\n" ++
    s!"   = rule: {d.rule}\n"

namespace Report

/-- How many errors there are, in how many files, and how many come from broken patterns. -/
def summary (r : Report) : String :=
  s!"\n{r.diagnostics.length} error(s) in {r.filesAnalyzed.length} file(s)" ++
    (if r.count .invalidPattern = 0 then ""
      else s!", {r.count .invalidPattern} from invalid patterns") ++ "\n"

/-- The report as the terminal shows it. -/
def human (r : Report) : String :=
  if r.diagnostics.isEmpty then ""
  else String.join (r.diagnostics.map Diagnostic.human) ++ r.summary

end Report

/-- A requirement, with the path behind its alias and the slot. -/
def Policy.requirement (p : Policy) : String :=
  p.spelling ++
    (match p.pkgName, p.pkg with
      | some name, some path => s!" ({name} = {path})"
      | _, _ => "") ++
    match p.index with
    | some i => s!" at index {i.toInt}"
    | none => " anywhere"

/-- The lines on the scope of a rule: one for each gate that has patterns. -/
def Rule.scopeLines (r : Rule) : String :=
  if r.isUnscoped then "   = applies to every function\n"
  else String.join <| Gate.all.map fun g =>
    if (r.patterns g).isEmpty then ""
    else s!"   = {g.caption}: " ++ ", ".intercalate (r.patterns g) ++ "\n"

/-- A rule with its label, requirements and scope. -/
def Rule.human (r : Rule) (i : Nat) : String :=
  r.label i ++ "\n" ++ String.join (r.args.map fun p => s!"  requires {p.requirement}\n") ++
    r.scopeLines

/-- The listing of the rules. -/
def Config.human (c : Config) : String :=
  if c.rules.isEmpty then "no rules configured\n"
  else "\n".intercalate (c.rules.zipIdx.map fun (r, i) => r.human i)

end RequiredArgs
