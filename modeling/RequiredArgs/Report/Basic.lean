/-
# Diagnostics and reports

A `Diagnostic` is one finding at the start of a declaration: policies that are unmet (`A001`) or a
scope pattern that is no regular expression (`A002`). A `Report` is the outcome of one run over a
list of files.
-/

import RequiredArgs.Json.Value

namespace RequiredArgs

/-- What a diagnostic reports. -/
inductive DiagnosticKind where
  | unmetPolicies
  | invalidPattern
deriving DecidableEq, Repr, Inhabited

namespace DiagnosticKind

/-- The word for a kind. -/
def word : DiagnosticKind → String
  | unmetPolicies => "unmet_policies"
  | invalidPattern => "invalid_pattern"

/-- The code that users see. -/
def code : DiagnosticKind → String
  | unmetPolicies => "A001"
  | invalidPattern => "A002"

/-- The kind that a word names. -/
def ofWord? (w : String) : Option DiagnosticKind :=
  [unmetPolicies, invalidPattern].find? (·.word == w)

end DiagnosticKind

/-- One finding, at the start of a function declaration. -/
structure Diagnostic where
  kind : DiagnosticKind
  code : String
  file : String
  line : UInt32
  column : UInt32
  /-- The byte at which the declaration starts. -/
  offset : UInt64
  function : String
  /-- The label of the rule. -/
  rule : String
  /-- The number of the rule in the configuration; it orders diagnostics and is not written. -/
  ruleIndex : Nat := 0
  message : String
deriving DecidableEq, Repr, Inhabited

/-- The counters of a run. -/
structure Report.Info where
  rules : UInt32 := 0
  functionsAnalyzed : UInt32 := 0
  /-- Declarations of `init` and `main`. -/
  functionsSkipped : UInt32 := 0
  parseFailures : UInt32 := 0
deriving DecidableEq, Repr, Inhabited

/-- The outcome of a run. -/
structure Report where
  version : String
  command : String
  status : String
  filesAnalyzed : List String
  diagnostics : List Diagnostic
  info : Report.Info
deriving DecidableEq, Repr, Inhabited

namespace Report

/-- Nothing was found. -/
def isClean (r : Report) : Bool := r.diagnostics.isEmpty

/-- How many diagnostics are of a kind. -/
def count (r : Report) (kind : DiagnosticKind) : Nat := r.diagnostics.countP (·.kind == kind)

end Report
end RequiredArgs
