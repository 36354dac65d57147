/-
# Syntax trees of patterns

What a pattern says before flags are resolved and character classes are looked up. Nodes keep the
spans that faults are reported at.
-/

import RequiredArgs.Pattern.Fault

namespace RequiredArgs
namespace Pattern

/-- One character, and whether it was written as `\xHH`, which means a byte where a pattern is not
read as Unicode. -/
structure Literal where
  span : Span
  char : Char
  isByte : Bool := false
deriving Repr, Inhabited

/-- The flags that a pattern can switch. -/
inductive Flag where
  | ignoreCase | multiLine | dotAll | swapGreed | unicode | crlf | verbose
deriving DecidableEq, Repr

/-- The flag with this letter. -/
def Flag.ofChar? : Char → Option Flag
  | 'i' => some ignoreCase
  | 'm' => some multiLine
  | 's' => some dotAll
  | 'U' => some swapGreed
  | 'u' => some unicode
  | 'R' => some crlf
  | 'x' => some verbose
  | _ => none

/-- A change of flags: the flags switched on, and those switched off. -/
structure FlagChange where
  on : List Flag := []
  off : List Flag := []
deriving Repr, Inhabited

/-- What a change does to one flag. -/
def FlagChange.state? (f : FlagChange) (flag : Flag) : Option Bool :=
  if f.on.contains flag then some true else if f.off.contains flag then some false else none

/-- The classes written by one letter: `\d`, `\s` and `\w`. -/
inductive Shorthand where
  | digit | space | word
deriving DecidableEq, Repr

/-- A set asked for by the name of a property, or by its name and value. -/
inductive Property where
  | named (name : String)
  | valued (name value : String)
deriving Repr

/-- The operations that join two classes. -/
inductive SetOp where
  | inter | diff | symmDiff
deriving DecidableEq, Repr

/-- What stands between square brackets. -/
inductive ClassAst where
  | empty (span : Span)
  | literal (l : Literal)
  | range (lo hi : Literal)
  | ascii (span : Span) (negated : Bool) (ranges : List (Char × Char))
  | property (span : Span) (negated : Bool) (p : Property)
  | shorthand (span : Span) (negated : Bool) (s : Shorthand)
  | union (span : Span) (items : List ClassAst)
  | bracketed (span : Span) (negated : Bool) (body : ClassAst)
  | op (span : Span) (o : SetOp) (lhs rhs : ClassAst)
deriving Repr, Inhabited

/-- The stretch of the pattern that a class takes. -/
def ClassAst.span : ClassAst → Span
  | .literal l => l.span
  | .range lo hi => ⟨lo.span.start, hi.span.stop⟩
  | .empty s | .ascii s _ _ | .property s _ _ | .shorthand s _ _ | .union s _ | .bracketed s _ _
  | .op s _ _ _ => s

/-- Conditions on a place in the text. -/
inductive Assertion where
  | lineStart | lineEnd | textStart | textEnd
  | wordBoundary | notWordBoundary | wordStart | wordEnd | wordStartHalf | wordEndHalf
deriving DecidableEq, Repr

/-- A pattern. -/
inductive Ast where
  | empty
  | flags (span : Span) (change : FlagChange)
  | literal (l : Literal)
  | dot (span : Span)
  | assertion (span : Span) (a : Assertion)
  | property (span : Span) (negated : Bool) (p : Property)
  | shorthand (span : Span) (negated : Bool) (s : Shorthand)
  | bracketed (span : Span) (negated : Bool) (body : ClassAst)
  | repetition (span : Span) (min : Nat) (max : Option Nat) (body : Ast)
  | group (span : Span) (isCapture : Bool) (change : FlagChange) (body : Ast)
  | concat (span : Span) (items : List Ast)
  | alternation (span : Span) (items : List Ast)
deriving Repr, Inhabited

namespace Ast

/-- A sequence; of one part it is the part itself. -/
def ofItems (span : Span) : List Ast → Ast
  | [] => empty
  | [a] => a
  | as => concat span as

/-- A choice; of one branch it is the branch itself. -/
def ofBranches (span : Span) : List Ast → Ast
  | [a] => a
  | as => alternation span as

/-- The stretch of the pattern that a node takes; an empty node takes none. -/
def span : Ast → Span
  | empty => ⟨0, 0⟩
  | literal l => l.span
  | flags s _ | dot s | assertion s _ | property s _ _ | shorthand s _ _ | bracketed s _ _
  | repetition s _ _ _ | group s _ _ _ | concat s _ | alternation s _ => s

end Ast

/-- How deep groups, classes, repetitions, sequences and choices may nest. -/
def nestLimit : Nat := 250

mutual

/-- The first node, in reading order, that lies below `limit` nested nodes. -/
def ClassAst.tooDeep? (limit : Nat) : ClassAst → Option Span
  | .union span items => if limit = 0 then some span else ClassAst.anyTooDeep? (limit - 1) items
  | .bracketed span _ body => if limit = 0 then some span else body.tooDeep? (limit - 1)
  | .op span _ lhs rhs =>
    if limit = 0 then some span
    else (lhs.tooDeep? (limit - 1)).or (rhs.tooDeep? (limit - 1))
  | .empty _ | .literal _ | .range _ _ | .ascii _ _ _ | .property _ _ _ | .shorthand _ _ _ => none

/-- The first node of a list that lies too deep. -/
def ClassAst.anyTooDeep? (limit : Nat) : List ClassAst → Option Span
  | [] => none
  | a :: as => (a.tooDeep? limit).or (ClassAst.anyTooDeep? limit as)

end

mutual

/-- The first node, in reading order, that lies below `limit` nested nodes. -/
def Ast.tooDeep? (limit : Nat) : Ast → Option Span
  | .bracketed span _ body => if limit = 0 then some span else body.tooDeep? (limit - 1)
  | .repetition span _ _ body | .group span _ _ body =>
    if limit = 0 then some span else body.tooDeep? (limit - 1)
  | .concat span items | .alternation span items =>
    if limit = 0 then some span else Ast.anyTooDeep? (limit - 1) items
  | .empty | .flags _ _ | .literal _ | .dot _ | .assertion _ _ | .property _ _ _
  | .shorthand _ _ _ => none

/-- The first node of a list that lies too deep. -/
def Ast.anyTooDeep? (limit : Nat) : List Ast → Option Span
  | [] => none
  | a :: as => (a.tooDeep? limit).or (Ast.anyTooDeep? limit as)

end

end Pattern
end RequiredArgs
