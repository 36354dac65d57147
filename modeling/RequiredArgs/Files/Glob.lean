/-
# Globs

A glob describes paths: `?` is one byte and `*` any number of bytes other than a slash, `**` between
slashes any number of directories, `[…]` one byte of a class, and `{a,b}` a choice. A backslash takes
its meaning from what follows. A glob is matched against the bytes of a whole path, each byte taken as
a character.
-/

import RequiredArgs.Pattern.Expr

namespace RequiredArgs
namespace Files

open Unicode (CharSet)
open Pattern (Expr)

/-- The bytes of a text, each as the character with that code. -/
def byteChars (s : String) : List Char := s.toUTF8.toList.map fun b => Char.ofNat b.toNat

/-- The bytes of a character. -/
def charBytes (c : Char) : List Nat := (String.singleton c).toUTF8.toList.map UInt8.toNat

/-- A part of a glob. -/
inductive GlobPart where
  | literal (c : Char)
  | anyByte
  | anyName
  /-- `**` at the front: any directories, or none. -/
  | anyStart
  /-- `**` at the end: anything below. -/
  | anyEnd
  /-- `**` between slashes, with the slashes. -/
  | anyMiddle
  | oneOf (negated : Bool) (ranges : List (Char × Char))
  | choice (branches : List (List GlobPart))
deriving Repr, Inhabited

namespace Glob

/-- Every byte. -/
def allBytes : CharSet := .range 0 0xFF

/-- Every byte but a slash. -/
def nameBytes : CharSet := allBytes.diff (.single '/')

/-- The bytes between two characters of a class. Characters beyond ASCII are taken byte by byte. -/
def rangeBytes (lo hi : Char) : List (Nat × Nat) :=
  let a := charBytes lo
  let b := charBytes hi
  if lo == hi then a.map fun n => (n, n)
  else a.dropLast.map (fun n => (n, n)) ++ [(a.getLastD 0, b.headD 0)] ++
    (b.drop 1).map fun n => (n, n)

/-- Any bytes. -/
def anything : Expr := .repetition 0 none (.chars allBytes)

/-- A slash. -/
def slash : Expr := .chars (.single '/')

mutual

/-- What a part of a glob matches. -/
def partExpr : GlobPart → Expr
  | .literal c => .ofList ((charBytes c).map fun n => .chars (.single (Char.ofNat n)))
  | .anyByte => .chars nameBytes
  | .anyName => .repetition 0 none (.chars nameBytes)
  | .anyStart => .alt (.repetition 0 (some 1) slash) (.seq anything slash)
  | .anyEnd => .seq slash anything
  | .anyMiddle => .alt slash (.seq slash (.seq anything slash))
  | .oneOf negated ranges =>
    let s := CharSet.ofRanges (ranges.flatMap fun (lo, hi) => rangeBytes lo hi)
    .chars (if negated then s.complementTo 0xFF else s)
  | .choice branches => (branchesExpr branches).getD .empty

/-- What a list of parts matches, one after the other. -/
def partsExpr : List GlobPart → Expr
  | [] => .empty
  | p :: ps => .seq (partExpr p) (partsExpr ps)

/-- What some branches match; a branch without parts does not count. -/
def branchesExpr : List (List GlobPart) → Option Expr
  | [] => none
  | b :: bs =>
    if b.isEmpty then branchesExpr bs
    else match branchesExpr bs with
      | some e => some (.alt (partsExpr b) e)
      | none => some (partsExpr b)

end

/-- What a glob matches: a whole path. -/
def toExpr (parts : List GlobPart) : Expr :=
  let body := match parts with
    | [.anyStart] => anything
    | parts => partsExpr parts
  .seq (.look .textStart) (.seq body (.look .textEnd))

/-- Reads a class behind its bracket: its ranges and what follows it, or nothing if it is not closed
(`none`) or a range is upside down (`some none`). `pending` says that a dash waits for the end of its
range. -/
def classItems : List Char → Bool → Bool → List (Char × Char) →
    Option (Option (List (Char × Char) × List Char))
  | [], _, _, _ => none
  | c :: cs, isFirst, pending, ranges =>
    if c == ']' && !isFirst then
      some (some ((if pending then ('-', '-') :: ranges else ranges).reverse, cs))
    else if c == '-' && !isFirst && !pending then classItems cs false true ranges
    else if pending then
      match ranges with
      | (lo, _) :: before =>
        if c < lo then some none else classItems cs false false ((lo, c) :: before)
      | [] => classItems cs false false [(c, c)]
    else classItems cs false false ((c, c) :: ranges)

/-- The parts read so far in an alternative, in reverse, and the alternatives before it. A glob that is
being read is a stack of such levels, the innermost first. -/
structure Level where
  parts : List GlobPart := []
  before : List (List GlobPart) := []

/-- Adds a part to the innermost alternative. -/
def push (p : GlobPart) : List Level → List Level
  | [] => [{ parts := [p] }]
  | l :: ls => { l with parts := p :: l.parts } :: ls

/-- Replaces the last part, which is a slash, by a `**`. -/
def pushRecursive (p : GlobPart) : List Level → List Level
  | [] => [{ parts := [p] }]
  | l :: ls =>
    match l.parts with
    | .anyStart :: _ | .anyEnd :: _ => l :: ls
    | _ :: rest => { l with parts := p :: rest } :: ls
    | [] => { l with parts := [p] } :: ls

/-- Two stars that stand for themselves. -/
def pushStars (stack : List Level) : List Level := push .anyName (push .anyName stack)

/-- What two stars mean, given the character before them and the characters behind them. -/
def doubleStar (prev : Option Char) (cs : List Char) (stack : List Level) :
    List Level × List Char :=
  let inner := 1 < stack.length
  if stack.head?.all (·.parts.isEmpty) then
    match cs with
    | [] => (push .anyStart stack, [])
    | '/' :: rest => (push .anyStart stack, rest)
    | cs => (pushStars stack, cs)
  else if prev != some '/' && !(inner && (prev == some ',' || prev == some '\x7b')) then
    (pushStars stack, cs)
  else match cs with
    | [] => (pushRecursive .anyEnd stack, [])
    | '/' :: rest => (pushRecursive .anyMiddle stack, rest)
    | c :: rest =>
      if inner && (c == ',' || c == '\x7d') then (pushRecursive .anyEnd stack, c :: rest)
      else (pushStars stack, c :: rest)

/-- Reads the parts of a glob; `none` if it is malformed. A class that is not closed is no class, and
its bracket stands for itself. -/
def read : Nat → Option Char → List Char → List Level → Option (List GlobPart)
  | 0, _, _, _ => none
  | fuel + 1, prev, cs, stack =>
    match cs with
    | [] =>
      match stack with
      | [l] => some l.parts.reverse
      | _ => none
    | '?' :: rest => read fuel (some '?') rest (push .anyByte stack)
    | '*' :: '*' :: rest =>
      let (stack, after) := doubleStar prev rest stack
      let last := if after.length < rest.length then '/' else '*'
      read fuel (some last) after stack
    | '*' :: rest => read fuel (some '*') rest (push .anyName stack)
    | '[' :: rest =>
      let (negated, body) := match rest with
        | '!' :: body | '^' :: body => (true, body)
        | body => (false, body)
      match classItems body true false [] with
      | some (some (ranges, after)) => read fuel (some ']') after (push (.oneOf negated ranges) stack)
      | some none => none
      | none => read fuel (some '[') rest (push (.literal '[') stack)
    | '\x7b' :: rest => read fuel (some '\x7b') rest ({} :: stack)
    | '\x7d' :: rest =>
      match stack with
      | l :: outer :: more =>
        let branches := (l.parts.reverse :: l.before).reverse
        read fuel (some '\x7d') rest (push (.choice branches) (outer :: more))
      | _ => none
    | ',' :: rest =>
      match stack with
      | l :: outer :: more =>
        read fuel (some ',') rest
          ({ parts := [], before := l.parts.reverse :: l.before } :: outer :: more)
      | stack => read fuel (some ',') rest (push (.literal ',') stack)
    | '\\' :: c :: rest => read fuel (some c) rest (push (.literal c) stack)
    | ['\\'] => none
    | c :: rest => read fuel (some c) rest (push (.literal c) stack)

/-- The expression of a glob, if it is well formed. -/
def compile? (text : List Char) : Option Expr :=
  (read (text.length + 1) none text [{}]).map toExpr

/-- The glob matches the path. -/
def isMatch (e : Expr) (path : String) : Bool := e.isMatch (.ofList (byteChars path))

end Glob
end Files
end RequiredArgs
