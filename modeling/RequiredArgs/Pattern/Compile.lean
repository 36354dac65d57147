/-
# Compiling patterns

`compile` is the one way from the text of a pattern to something that can be matched. It fails with
the first fault of the pattern, or because the compiled pattern would be too large.
-/

import RequiredArgs.Pattern.Parser
import RequiredArgs.Pattern.Lowering
import RequiredArgs.Pattern.Size

namespace RequiredArgs
namespace Pattern

/-- Why a pattern cannot be used. -/
inductive CompileError where
  | malformed (fault : Fault)
  | tooLarge (limit : Nat)
deriving DecidableEq, Repr

/-- The message for a pattern that cannot be used. -/
def CompileError.message (pattern : String) : CompileError → String
  | malformed fault => fault.render pattern
  | tooLarge limit => s!"Compiled regex exceeds size limit of {limit} bytes."

/-- The expression of a pattern. -/
def compile (pattern : String) : Except CompileError Expr :=
  match Ast.parse pattern with
  | .error fault => .error (.malformed fault)
  | .ok ast =>
    match ast.lower with
    | .error fault => .error (.malformed fault)
    | .ok e => if sizeLimit < e.size then .error (.tooLarge sizeLimit) else .ok e

end Pattern
end RequiredArgs
