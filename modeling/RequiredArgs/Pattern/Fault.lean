/-
# Faults of patterns

A pattern that does not parse, or asks for what cannot be matched, has a `Fault`: a cause and the span
of the text that shows it, sometimes with the span of an earlier place that it collides with. `render`
prints the pattern with carets under the spans; a pattern of several lines is listed with line
numbers between two rules.
-/

namespace RequiredArgs
namespace Pattern

/-- A stretch of a pattern, counted in characters from zero. -/
structure Span where
  start : Nat
  stop : Nat
deriving DecidableEq, Repr, Inhabited

/-- What is wrong with a pattern. -/
inductive Cause where
  | classEscapeInvalid
  | classRangeInvalid
  | classRangeLiteral
  | classUnclosed
  | decimalInvalid
  | escapeHexEmpty
  | escapeHexInvalid
  | escapeHexInvalidDigit
  | escapeUnexpectedEnd
  | escapeUnrecognized
  | flagDanglingNegation
  | flagDuplicate
  | flagRepeatedNegation
  | flagUnexpectedEnd
  | flagUnrecognized
  | groupNameDuplicate
  | groupNameEmpty
  | groupNameInvalid
  | groupNameUnexpectedEnd
  | groupUnclosed
  | groupUnopened
  | nestLimitExceeded (limit : Nat)
  | repetitionCountInvalid
  | repetitionCountEmpty
  | repetitionCountUnclosed
  | repetitionMissing
  | wordBoundaryUnclosed
  | wordBoundaryUnrecognized
  | wordBoundaryUnexpectedEnd
  | propertyInvalid
  | backreference
  | lookAround
  | unicodeNotAllowed
  | invalidUtf8
  | propertyNotFound
  | propertyValueNotFound
deriving DecidableEq, Repr, Inhabited

/-- The wording of a cause. -/
def Cause.message : Cause → String
  | classEscapeInvalid => "invalid escape sequence found in character class"
  | classRangeInvalid => "invalid character class range, the start must be <= the end"
  | classRangeLiteral => "invalid range boundary, must be a literal"
  | classUnclosed => "unclosed character class"
  | decimalInvalid => "decimal literal invalid"
  | escapeHexEmpty => "hexadecimal literal empty"
  | escapeHexInvalid => "hexadecimal literal is not a Unicode scalar value"
  | escapeHexInvalidDigit => "invalid hexadecimal digit"
  | escapeUnexpectedEnd => "incomplete escape sequence, reached end of pattern prematurely"
  | escapeUnrecognized => "unrecognized escape sequence"
  | flagDanglingNegation => "dangling flag negation operator"
  | flagDuplicate => "duplicate flag"
  | flagRepeatedNegation => "flag negation operator repeated"
  | flagUnexpectedEnd => "expected flag but got end of regex"
  | flagUnrecognized => "unrecognized flag"
  | groupNameDuplicate => "duplicate capture group name"
  | groupNameEmpty => "empty capture group name"
  | groupNameInvalid => "invalid capture group character"
  | groupNameUnexpectedEnd => "unclosed capture group name"
  | groupUnclosed => "unclosed group"
  | groupUnopened => "unopened group"
  | nestLimitExceeded limit =>
    s!"exceed the maximum number of nested parentheses/brackets ({limit})"
  | repetitionCountInvalid => "invalid repetition count range, the start must be <= the end"
  | repetitionCountEmpty => "repetition quantifier expects a valid decimal"
  | repetitionCountUnclosed => "unclosed counted repetition"
  | repetitionMissing => "repetition operator missing expression"
  | wordBoundaryUnclosed =>
    "special word boundary assertion is either unclosed or contains an invalid character"
  | wordBoundaryUnrecognized =>
    "unrecognized special word boundary assertion, valid choices are: start, end, " ++
      "start-half or end-half"
  | wordBoundaryUnexpectedEnd =>
    "found either the beginning of a special word boundary or a bounded repetition on a \\b " ++
      "with an opening brace, but no closing brace"
  | propertyInvalid => "invalid Unicode character class"
  | backreference => "backreferences are not supported"
  | lookAround => "look-around, including look-ahead and look-behind, is not supported"
  | unicodeNotAllowed => "Unicode not allowed here"
  | invalidUtf8 => "pattern can match invalid UTF-8"
  | propertyNotFound => "Unicode property not found"
  | propertyValueNotFound => "Unicode property value not found"

/-- A cause, where it shows, and the earlier place it collides with. -/
structure Fault where
  cause : Cause
  span : Span
  other : Option Span := none
deriving DecidableEq, Repr, Inhabited

namespace Fault

/-- The lines of a text; a line break at the end begins no further line. -/
def lines : List Char → List (List Char)
  | [] => []
  | c :: cs =>
    if c == '\n' then [] :: lines cs
    else match lines cs with
      | [] => [[c]]
      | line :: rest => if cs.head? == some '\n' && c == '\r' then line :: rest
        else (c :: line) :: rest

/-- The line and the column, from one, of the character at an index. -/
def place (pattern : List Char) (index : Nat) : Nat × Nat :=
  (pattern.take index).foldl
    (fun (line, column) c => if c == '\n' then (line + 1, 1) else (line, column + 1)) (1, 1)

/-- The spans of the fault in the order of the text. -/
def spans (f : Fault) : List Span :=
  match f.other with
  | none => [f.span]
  | some o =>
    if o.start < f.span.start || (o.start == f.span.start && o.stop ≤ f.span.stop) then [o, f.span]
    else [f.span, o]

/-- Carets under the given columns, from one; an empty stretch gets one caret. -/
def carets (stretches : List (Nat × Nat)) : List Char :=
  stretches.foldl
    (fun note (start, stop) =>
      note ++ List.replicate (start - 1 - note.length) ' ' ++
        List.replicate (max 1 (stop - start)) '^')
    []

/-- The caret line of a line of the pattern, if a span lies in it. -/
def noteFor (places : List ((Nat × Nat) × (Nat × Nat))) (line : Nat) : Option (List Char) :=
  let here := places.filter fun ((l, _), (l', _)) => l == line && l' == line
  if here.isEmpty then none else some (carets (here.map fun ((_, c), (_, c')) => (c, c')))

/-- The pattern's lines behind their margins, each followed by its caret line. -/
def listing (pattern : List Char) (places : List ((Nat × Nat) × (Nat × Nat))) : List Char :=
  let texts := lines pattern
  let count := texts.length + (if pattern.getLast? == some '\n' then 1 else 0)
  let width := if count ≤ 1 then 0 else (toString count).length
  let padding := if width == 0 then 4 else 2 + width
  texts.zipIdx.flatMap fun (text, i) =>
    let number := (toString (i + 1)).toList
    let margin :=
      if width == 0 then List.replicate 4 ' '
      else List.replicate (width - number.length) ' ' ++ number ++ [':', ' ']
    margin ++ text ++ ['\n'] ++
      match noteFor places (i + 1) with
      | some note => List.replicate padding ' ' ++ note ++ ['\n']
      | none => []

/-- What is said of a span that covers several lines. -/
def farNote (p : (Nat × Nat) × (Nat × Nat)) : String :=
  s!"on line {p.1.1} (column {p.1.2}) through line {p.2.1} (column {p.2.2 - 1})\n"

/-- The fault as it is printed for the pattern. -/
def render (f : Fault) (pattern : String) : String :=
  let cs := pattern.toList
  let places := f.spans.map fun s => (place cs s.start, place cs s.stop)
  let body := String.ofList (listing cs places)
  let rule := String.ofList (List.replicate 79 '~') ++ "\n"
  let far := places.filter fun ((l, _), (l', _)) => l != l'
  "regex parse error:\n" ++
    (if cs.contains '\n' then rule ++ body ++ rule ++ String.join (far.map farNote) else body) ++
    "error: " ++ f.cause.message

end Fault
end Pattern
end RequiredArgs
