/-
# The size of a compiled pattern

A pattern is compiled to states of an automaton over the bytes of the text, and patterns whose
automaton takes more than `sizeLimit` bytes are refused. `Expr.size` counts the automaton without
building it: a state takes 32 bytes and each way out of a branching state 4 more; a counted repetition
has a copy of its operand for each count.
-/

import RequiredArgs.Pattern.Expr

namespace RequiredArgs
namespace Pattern

open Unicode (CharSet)

/-- The greatest size of a compiled pattern, in bytes. -/
def sizeLimit : Nat := 10485760

/-- The bytes of a state. -/
def stateSize : Nat := 32

/-- The bytes of a way out of a state. -/
def edgeSize : Nat := 4

/-- The bytes of a range of input bytes in a state. -/
def rangeSize : Nat := 8

/-- The last code points whose encodings take one, two and three bytes. -/
def lengthEnds : List Nat := [0x7F, 0x7FF, 0xFFFF]

/-- The bytes that encode a code point. -/
def encoding (n : Nat) : List Nat :=
  if n ≤ 0x7F then [n]
  else if n ≤ 0x7FF then [0xC0 + n / 64, 0x80 + n % 64]
  else if n ≤ 0xFFFF then [0xE0 + n / 4096, 0x80 + n / 64 % 64, 0x80 + n % 64]
  else [0xF0 + n / 262144, 0x80 + n / 4096 % 64, 0x80 + n / 64 % 64, 0x80 + n % 64]

/-- Where a range of code points must be cut so that each part is a product of byte ranges: at the end
of an encoding length, or where the bytes behind the first differing one are not all covered. -/
def cut? (lo hi : Nat) : Option Nat :=
  match lengthEnds.find? fun e => lo ≤ e && e < hi with
  | some e => some e
  | none =>
    if hi ≤ 0x7F then none
    else
      [64, 4096, 262144].findSome? fun m =>
        if lo / m == hi / m then none
        else if lo % m != 0 then some (lo / m * m + (m - 1))
        else if hi % m != m - 1 then some (hi / m * m - 1)
        else none

/-- The products of byte ranges that make up a range of code points. -/
def byteRanges : Nat → Nat → Nat → List (List (Nat × Nat))
  | 0, _, _ => []
  | fuel + 1, lo, hi =>
    if hi < lo then []
    else match cut? lo hi with
      | some e => byteRanges fuel lo e ++ byteRanges fuel (e + 1) hi
      | none => [(encoding lo).zip (encoding hi)]

/-- The length of the longest common beginning. -/
def sharedLength : List (Nat × Nat) → List (Nat × Nat) → Nat
  | a :: as, b :: bs => if a == b then sharedLength as bs + 1 else 0
  | _, _ => 0

/-- The number of states for products in ascending order when common beginnings are shared. -/
def sharedStates : List (Nat × Nat) → List (List (Nat × Nat)) → Nat
  | _, [] => 0
  | last, s :: rest => (s.length - sharedLength last s) + sharedStates s rest

/-- The size of a class of characters. A class within ASCII is one state with its ranges and one
behind it; any other has a state for each byte range of the encodings. -/
def classSize (s : CharSet) : Nat :=
  match s.ranges with
  | [] => stateSize
  | [(lo, hi)] =>
    if lo == hi then stateSize * (encoding lo).length
    else if hi ≤ 0x7F then 2 * stateSize + rangeSize
    else spreadSize s
  | ranges =>
    if ranges.all fun (_, hi) => hi ≤ 0x7F then 2 * stateSize + rangeSize * ranges.length
    else spreadSize s
where
  /-- The size of a class beyond ASCII; code points of surrogates have no encoding. -/
  spreadSize (s : CharSet) : Nat :=
    let ranges := (s.diff (.range 0xD800 0xDFFF)).ranges
    let products := ranges.flatMap fun (lo, hi) => byteRanges 16 lo hi
    2 * stateSize + stateSize * sharedStates [] products + edgeSize * products.length

namespace Expr

/-- Only the empty text can match. -/
def isEmptyOnly : Expr → Bool
  | empty | look _ => true
  | chars _ => false
  | seq a b | alt a b => a.isEmptyOnly && b.isEmptyOnly
  | repetition _ max a => a.isEmptyOnly || max == some 0
  | capture a => a.isEmptyOnly

/-- The size of a repetition of an operand of size `n`. -/
def repeatedSize (n min : Nat) (max : Option Nat) : Nat :=
  let loop := stateSize + 2 * edgeSize
  match max with
  | none => Nat.max min 1 * n + loop
  | some m =>
    if m == 0 then stateSize
    else if m == min then min * n
    else min * n + stateSize + (m - min) * (n + loop)

/-- The bytes of the states of the compiled expression. Repeating what matches only the empty text
more than once changes nothing, so it is not repeated. -/
def size : Expr → Nat
  | empty | look _ => stateSize
  | chars s => classSize s
  | seq a b => a.size + b.size
  | alt a b => a.size + b.size + 2 * stateSize + 2 * edgeSize
  | repetition min max a =>
    if a.isEmptyOnly then repeatedSize a.size (Nat.min min 1) (some (Nat.min (max.getD 1) 1))
    else repeatedSize a.size min max
  | capture a => a.size + 2 * stateSize

end Expr
end Pattern
end RequiredArgs
