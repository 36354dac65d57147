/-
# Sets of characters

A `CharSet` is a list of closed ranges of code points, in ascending order and with gaps between
them. Tables of Unicode properties are written as texts of hexadecimal ranges such as
`30-39 41-5a 5f` and read by `CharSet.ofText`; the set operations keep the order and the gaps.
-/

namespace RequiredArgs
namespace Unicode

/-- The greatest code point. -/
def maxCode : Nat := 0x10FFFF

/-- Ascending closed ranges of code points. -/
structure CharSet where
  ranges : List (Nat × Nat) := []
deriving DecidableEq, Repr, Inhabited

namespace CharSet

/-- The code point lies in one of the ranges. -/
def hasCode (s : CharSet) (n : Nat) : Bool := s.ranges.any fun (lo, hi) => lo ≤ n && n ≤ hi

/-- The character lies in the set. -/
def contains (s : CharSet) (c : Char) : Bool := s.hasCode c.toNat

/-- The set without characters. -/
def isEmpty (s : CharSet) : Bool := s.ranges.isEmpty

/-- Joins ranges that touch; the ranges must ascend by their lower ends. -/
def fuse : List (Nat × Nat) → List (Nat × Nat)
  | [] => []
  | [r] => [r]
  | (a, b) :: (c, d) :: rest =>
    if c ≤ b + 1 then fuse ((a, max b d) :: rest) else (a, b) :: fuse ((c, d) :: rest)
termination_by rs => rs.length

/-- The set of all characters in some of the ranges, which may come in any order and overlap. -/
def ofRanges (rs : List (Nat × Nat)) : CharSet :=
  { ranges := fuse ((rs.filter fun (lo, hi) => lo ≤ hi).mergeSort fun a b => a.1 ≤ b.1) }

/-- One range. -/
def range (lo hi : Nat) : CharSet := ofRanges [(lo, hi)]

/-- One character. -/
def single (c : Char) : CharSet := { ranges := [(c.toNat, c.toNat)] }

/-- The characters of either set. -/
def union (s t : CharSet) : CharSet := ofRanges (s.ranges ++ t.ranges)

/-- The gaps between ascending ranges, from `start` to `top`. -/
def gaps (top start : Nat) : List (Nat × Nat) → List (Nat × Nat)
  | [] => if start ≤ top then [(start, top)] else []
  | (lo, hi) :: rest =>
    if start < lo then (start, lo - 1) :: gaps top (hi + 1) rest else gaps top (hi + 1) rest

/-- The code points up to `top` that are not in the set. -/
def complementTo (top : Nat) (s : CharSet) : CharSet := { ranges := gaps top 0 s.ranges }

/-- The characters that are not in the set. -/
def complement (s : CharSet) : CharSet := s.complementTo maxCode

/-- The characters of both sets. -/
def inter (s t : CharSet) : CharSet :=
  ofRanges (s.ranges.flatMap fun (a, b) =>
    t.ranges.filterMap fun (c, d) =>
      if max a c ≤ min b d then some (max a c, min b d) else none)

/-- The characters of the first set that are not in the second. -/
def diff (s t : CharSet) : CharSet := s.inter t.complement

/-- The characters of exactly one of the sets. -/
def symmDiff (s t : CharSet) : CharSet := (s.diff t).union (t.diff s)

/-- The number written by lower-case hexadecimal digits. -/
def hexNumber (cs : List Char) : Nat :=
  cs.foldl (fun n c => n * 16 + (if c.isDigit then c.toNat - 48 else c.toNat - 87)) 0

/-- Reads one range `lo-hi`, or one code point. -/
def rangeOfText (cs : List Char) : Nat × Nat :=
  let lo := cs.takeWhile (· != '-')
  match cs.dropWhile (· != '-') with
  | '-' :: hi => (hexNumber lo, hexNumber hi)
  | _ => (hexNumber lo, hexNumber lo)

/-- Cuts a text at its blanks. -/
def words (cs : List Char) : List (List Char) :=
  let (last, done) := cs.foldr
    (fun c (word, done) =>
      if c == ' ' || c == '\n' then ([], if word.isEmpty then done else word :: done)
      else (c :: word, done))
    ([], [])
  if last.isEmpty then done else last :: done

/-- Reads a table: ascending hexadecimal ranges between blanks. -/
def ofText (s : String) : CharSet := { ranges := (words s.toList).map rangeOfText }

end CharSet
end Unicode
end RequiredArgs
