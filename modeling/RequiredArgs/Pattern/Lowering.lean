/-
# Resolving flags and classes

`Ast.lower` turns a syntax tree into an expression: flags act from where they are set to the end of
their group, classes become sets of characters, and a class or character that could match a part of
an encoded character is a fault.
-/

import RequiredArgs.Pattern.Ast
import RequiredArgs.Pattern.Expr
import RequiredArgs.Unicode.Query
import RequiredArgs.Unicode.CaseFold

namespace RequiredArgs
namespace Pattern

open Unicode (CharSet)

/-- The flags that change what a pattern matches. -/
structure Flags where
  ignoreCase : Bool := false
  multiLine : Bool := false
  dotAll : Bool := false
  unicode : Bool := true
  crlf : Bool := false
deriving Repr, Inhabited

/-- The flags after a change. -/
def Flags.apply (f : Flags) (c : FlagChange) : Flags where
  ignoreCase := (c.state? .ignoreCase).getD f.ignoreCase
  multiLine := (c.state? .multiLine).getD f.multiLine
  dotAll := (c.state? .dotAll).getD f.dotAll
  unicode := (c.state? .unicode).getD f.unicode
  crlf := (c.state? .crlf).getD f.crlf

namespace Flags

def fault {α : Type} (cause : Cause) (span : Span) : Except Fault α := .error { cause, span }

/-- Folds the case of a class if the flags say so, and negates it. Where the pattern is not read as
Unicode, a class of bytes beyond ASCII is a fault. -/
def finish (f : Flags) (span : Span) (negated : Bool) (s : CharSet) : Except Fault CharSet :=
  if f.unicode then
    let s := if f.ignoreCase then s.closeCase else s
    return if negated then s.complement else s
  else
    let s := if f.ignoreCase then s.closeAsciiCase else s
    let s := if negated then s.complementTo 0xFF else s
    if s.ranges.all fun (_, hi) => hi < 0x80 then return s else fault .invalidUtf8 span

/-- The set of a shorthand, before it is negated. -/
def shorthandSet (f : Flags) : Shorthand → CharSet
  | .digit => if f.unicode then Unicode.categorySet "nd" else .ofRanges [(0x30, 0x39)]
  | .space => if f.unicode then Unicode.whiteSpace else .ofRanges [(0x09, 0x0D), (0x20, 0x20)]
  | .word =>
    if f.unicode then Unicode.wordChars
    else .ofRanges [(0x30, 0x39), (0x41, 0x5A), (0x5F, 0x5F), (0x61, 0x7A)]

/-- The set that a shorthand stands for; case plays no part in it. -/
def shorthand (f : Flags) (span : Span) (negated : Bool) (s : Shorthand) :
    Except Fault CharSet :=
  { f with ignoreCase := false }.finish span negated (f.shorthandSet s)

/-- The set that a property stands for. -/
def property (f : Flags) (span : Span) (negated : Bool) (p : Property) : Except Fault CharSet :=
  if !f.unicode then fault .unicodeNotAllowed span
  else
    let found := match p with
      | .named name => Unicode.namedSet name
      | .valued name value => Unicode.valuedSet name value
    match found with
    | .ok s => f.finish span negated s
    | .error .property => fault .propertyNotFound span
    | .error .value => fault .propertyValueNotFound span

/-- The character of a literal; a byte beyond ASCII is none. -/
def literalChar (f : Flags) (l : Literal) : Except Fault Char :=
  if !f.unicode && l.isByte && l.char.toNat ≥ 0x80 then fault .invalidUtf8 l.span else .ok l.char

/-- The character of a literal in a class. -/
def classChar (f : Flags) (l : Literal) : Except Fault Char := do
  let c ← f.literalChar l
  if !f.unicode && c.toNat ≥ 0x80 then fault .unicodeNotAllowed l.span else return c

/-- The characters that a literal stands for. -/
def literalSet (f : Flags) (l : Literal) : Except Fault CharSet := do
  let c ← f.literalChar l
  if !f.ignoreCase then return .single c
  else if f.unicode then return (CharSet.single c).closeCase
  else return (CharSet.single c).closeAsciiCase

/-- The characters that a dot stands for. -/
def dotSet (f : Flags) (span : Span) : Except Fault CharSet :=
  if !f.unicode then fault .invalidUtf8 span
  else if f.dotAll then .ok (.range 0 Unicode.maxCode)
  else if f.crlf then .ok (CharSet.complement (.ofRanges [(0x0A, 0x0A), (0x0D, 0x0D)]))
  else .ok (CharSet.single '\n').complement

/-- The condition that an assertion stands for. -/
def lookOf (f : Flags) (a : Assertion) : Look :=
  let k : WordKind := if f.unicode then .unicode else .ascii
  match a with
  | .lineStart => if f.multiLine then .lineStart f.crlf else .textStart
  | .lineEnd => if f.multiLine then .lineEnd f.crlf else .textEnd
  | .textStart => .textStart
  | .textEnd => .textEnd
  | .wordBoundary => .wordBoundary k
  | .notWordBoundary => .notWordBoundary k
  | .wordStart => .wordStart k
  | .wordEnd => .wordEnd k
  | .wordStartHalf => .wordStartHalf k
  | .wordEndHalf => .wordEndHalf k

end Flags

/-- What an operator makes of two sets. -/
def SetOp.apply : SetOp → CharSet → CharSet → CharSet
  | inter, s, t => s.inter t
  | diff, s, t => s.diff t
  | symmDiff, s, t => s.symmDiff t

mutual

/-- The set that the inside of a class stands for. -/
def ClassAst.lower (f : Flags) : ClassAst → Except Fault CharSet
  | .empty _ => return {}
  | .literal l => return .single (← f.classChar l)
  | .range lo hi => do
    let a ← f.classChar lo
    let b ← f.classChar hi
    return .range a.toNat b.toNat
  | .ascii span negated ranges =>
    f.finish span negated (.ofRanges (ranges.map fun (a, b) => (a.toNat, b.toNat)))
  | .property span negated p => f.property span negated p
  | .shorthand span negated s => f.shorthand span negated s
  | .union _ items => ClassAst.lowerAll f items
  | .bracketed span negated body => do f.finish span negated (← body.lower f)
  | .op _ o lhs rhs => do
    let s ← lhs.lower f
    let t ← rhs.lower f
    let fold := fun (x : CharSet) =>
      if !f.ignoreCase then x else if f.unicode then x.closeCase else x.closeAsciiCase
    return o.apply (fold s) (fold t)

/-- The set of the characters of any of the members. -/
def ClassAst.lowerAll (f : Flags) : List ClassAst → Except Fault CharSet
  | [] => return {}
  | a :: as => do
    let s ← a.lower f
    let t ← ClassAst.lowerAll f as
    return s.union t

end

mutual

/-- The expression of a syntax tree, and the flags that hold after it. -/
def Ast.lowerFrom (f : Flags) : Ast → Except Fault (Expr × Flags)
  | .empty => return (.empty, f)
  | .flags _ change => return (.empty, f.apply change)
  | .literal l => return (.chars (← f.literalSet l), f)
  | .dot span => return (.chars (← f.dotSet span), f)
  | .assertion _ a => return (.look (f.lookOf a), f)
  | .property span negated p => return (.chars (← f.property span negated p), f)
  | .shorthand span negated s => return (.chars (← f.shorthand span negated s), f)
  | .bracketed span negated body => do
    return (.chars (← f.finish span negated (← body.lower f)), f)
  | .repetition _ min max body => do
    let (e, f) ← body.lowerFrom f
    return (.repetition min max e, f)
  | .group _ isCapture change body => do
    let (e, _) ← body.lowerFrom (f.apply change)
    return (if isCapture then .capture e else e, f)
  | .concat _ items => do
    let (es, f) ← Ast.lowerAll f items
    return (.ofList es, f)
  | .alternation _ items => do
    let (es, f) ← Ast.lowerAll f items
    return (es.dropLast.foldr .alt (es.getLastD .empty), f)

/-- The expressions of parts that follow each other, and the flags that hold after them. -/
def Ast.lowerAll (f : Flags) : List Ast → Except Fault (List Expr × Flags)
  | [] => return ([], f)
  | a :: as => do
    let (e, f) ← a.lowerFrom f
    let (es, f) ← Ast.lowerAll f as
    return (e :: es, f)

end

/-- The expression of a whole pattern. -/
def Ast.lower (a : Ast) : Except Fault Expr := return (← a.lowerFrom {}).1

end Pattern
end RequiredArgs
