/-
# The scope of a rule

A declaration passes the six gates of a rule in order. An including gate lets it through if its list is
empty or some pattern of it matches, an excluding gate if none does. Patterns are tried in order and
only as far as needed, so a pattern that cannot be used is reported only when it is reached.
-/

import RequiredArgs.Policy.Basic
import RequiredArgs.Pattern.Compile
import RequiredArgs.Text.Escaped

namespace RequiredArgs

/-- A pattern that was reached and cannot be used. -/
structure ScopeError where
  gate : Gate
  pattern : String
  cause : Pattern.CompileError
deriving DecidableEq, Repr

/-- The message for a pattern that cannot be used. -/
def ScopeError.message (e : ScopeError) : String :=
  s!"invalid pattern {Text.quoted e.pattern} in {e.gate.key}: {e.cause.message e.pattern}"

/-- The names by which a declaration is selected. -/
structure Target where
  file : String
  func : String
  /-- Empty for a function without receiver. -/
  recv : String
deriving DecidableEq, Repr, Inhabited

/-- The name that a gate looks at. -/
def Gate.candidate (t : Target) : Gate → String
  | fileInclude | fileExclude => t.file
  | funcInclude | funcExclude => t.func
  | recvInclude | recvExclude => t.recv

/-- Some pattern of the list matches the candidate; a pattern behind the first match is not tried. -/
def Gate.anyMatch (g : Gate) (candidate : String) : List String → Except ScopeError Bool
  | [] => .ok false
  | p :: ps =>
    match Pattern.compile p with
    | .error cause => .error { gate := g, pattern := p, cause }
    | .ok e => if e.isMatch candidate then .ok true else g.anyMatch candidate ps

namespace Rule

/-- The gate lets the declaration through. -/
def passes (r : Rule) (t : Target) (g : Gate) : Except ScopeError Bool :=
  match r.patterns g with
  | [] => .ok true
  | ps =>
    match g.anyMatch (g.candidate t) ps with
    | .ok found => .ok (found == g.isInclude)
    | .error e => .error e

/-- All of the gates let the declaration through; a gate behind a closed one is not tried. -/
def passesAll (r : Rule) (t : Target) : List Gate → Except ScopeError Bool
  | [] => .ok true
  | g :: gs =>
    match r.passes t g with
    | .ok true => r.passesAll t gs
    | .ok false => .ok false
    | .error e => .error e

/-- The rule is for the declaration. -/
def applies (r : Rule) (t : Target) : Except ScopeError Bool := r.passesAll t Gate.all

end Rule
end RequiredArgs
