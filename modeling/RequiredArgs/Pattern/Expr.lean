/-
# What patterns match

A `Spot` is a place in a text: the character before it and the characters after it. An `Expr` leads
from a spot to the spots where a match of it can end; `Expr.reach` computes them for a list of spots at
once. Since spots only move forward, repetition needs at most one round for each spot.
-/

import RequiredArgs.Unicode.Property

namespace RequiredArgs
namespace Pattern

open Unicode (CharSet)

/-- A place in a text. -/
structure Spot where
  before : Option Char := none
  after : List Char
deriving DecidableEq, Repr

/-- Which characters count as those of a word. -/
inductive WordKind where
  | unicode | ascii
deriving DecidableEq, Repr

/-- The characters of words. -/
def WordKind.contains : WordKind → Char → Bool
  | ascii, c => c.isAlphanum || c == '_'
  | unicode, c =>
    if c.toNat < 128 then c.isAlphanum || c == '_' else Unicode.wordChars.contains c

/-- Conditions on a spot. -/
inductive Look where
  | textStart | textEnd
  /-- At the start of a line; with `crlf`, a carriage return ends a line too. -/
  | lineStart (crlf : Bool)
  | lineEnd (crlf : Bool)
  | wordBoundary (k : WordKind) | notWordBoundary (k : WordKind)
  | wordStart (k : WordKind) | wordEnd (k : WordKind)
  | wordStartHalf (k : WordKind) | wordEndHalf (k : WordKind)
deriving DecidableEq, Repr

/-- The condition holds at the spot. -/
def Look.holds (l : Look) (s : Spot) : Bool :=
  let next := s.after.head?
  match l with
  | textStart => s.before.isNone
  | textEnd => next.isNone
  | lineStart false => s.before.isNone || s.before == some '\n'
  | lineEnd false => next.isNone || next == some '\n'
  | lineStart true =>
    s.before.isNone || s.before == some '\n' || (s.before == some '\r' && next != some '\n')
  | lineEnd true =>
    next.isNone || next == some '\r' || (next == some '\n' && s.before != some '\r')
  | wordBoundary k => s.before.any k.contains != next.any k.contains
  | notWordBoundary k => s.before.any k.contains == next.any k.contains
  | wordStart k => !s.before.any k.contains && next.any k.contains
  | wordEnd k => s.before.any k.contains && !next.any k.contains
  | wordStartHalf k => !s.before.any k.contains
  | wordEndHalf k => !next.any k.contains

/-- Patterns with flags resolved and classes looked up. -/
inductive Expr where
  | empty
  | chars (s : CharSet)
  | look (l : Look)
  | seq (a b : Expr)
  | alt (a b : Expr)
  | repetition (min : Nat) (max : Option Nat) (a : Expr)
  | capture (a : Expr)
deriving Repr, Inhabited

/-- The spot behind the next character, if that lies in the set. -/
def Spot.advance? (s : Spot) (set : CharSet) : Option Spot :=
  match s.after with
  | c :: cs => if set.contains c then some { before := some c, after := cs } else none
  | [] => none

/-- Two lists of spots as one, without the repetitions of the first in the second. -/
def joinSpots (xs ys : List Spot) : List Spot := xs ++ ys.filter fun y => !xs.contains y

/-- All spots that `step` reaches from `found` in at most `rounds` rounds. -/
def spread (step : List Spot → List Spot) : Nat → List Spot → List Spot
  | 0, found => found
  | rounds + 1, found =>
    let wider := joinSpots found (step found)
    if wider.length == found.length then found else spread step rounds wider

/-- The spots that `step` reaches in exactly `rounds` rounds. -/
def advance (step : List Spot → List Spot) : Nat → List Spot → List Spot
  | 0, spots => spots
  | rounds + 1, spots => if spots.isEmpty then [] else advance step rounds (step spots)

/-- The number of characters after the earliest of the spots. -/
def longest (spots : List Spot) : Nat := spots.foldl (fun n s => max n s.after.length) 0

namespace Expr

/-- The spots where matches that start at the given spots can end. More rounds of a repetition than
there are characters, and one, lead nowhere else. -/
def reach : Expr → List Spot → List Spot
  | empty, spots => spots
  | chars set, spots => spots.filterMap (·.advance? set)
  | look l, spots => spots.filter l.holds
  | seq a b, spots => b.reach (a.reach spots)
  | alt a b, spots => joinSpots (a.reach spots) (b.reach spots)
  | repetition min max a, spots =>
    let bound := longest spots + 1
    let step := fun spots => a.reach spots
    let rounds := match max with
      | some m => m - min
      | none => bound
    spread step (Nat.min rounds bound) (advance step (Nat.min min bound) spots)
  | capture a, spots => a.reach spots

/-- Every spot of a text, from its start to its end. -/
def spotsOf (before : Option Char) : List Char → List Spot
  | [] => [{ before, after := [] }]
  | c :: cs => { before, after := c :: cs } :: spotsOf (some c) cs

/-- The expression matches some part of the text. -/
def isMatch (e : Expr) (text : String) : Bool :=
  !(e.reach (spotsOf none text.toList)).isEmpty

/-- A sequence. -/
def ofList : List Expr → Expr
  | [] => empty
  | [e] => e
  | e :: es => seq e (ofList es)

end Expr
end Pattern
end RequiredArgs
