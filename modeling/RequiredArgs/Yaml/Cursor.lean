/-
# Reading YAML texts

The state of a reader is the rest of the text with its mark, the anchors seen so far and the handles
of tags. A carriage return with the line feed behind it is passed as one line break.
-/

import RequiredArgs.Yaml.Node

namespace RequiredArgs
namespace Yaml

/-- The characters that end a line. -/
def isBreak (c : Char) : Bool :=
  c == '\n' || c == '\r' || c == '\u0085' || c == '\u2028' || c == '\u2029'

/-- A space or a tab. -/
def isBlank (c : Char) : Bool := c == ' ' || c == '\t'

/-- A blank, a line break or the end of the text comes next. -/
def isBlankz : List Char → Bool
  | [] => true
  | c :: _ => isBlank c || isBreak c

/-- The characters that may stand in a YAML text. -/
def isAllowed (c : Char) : Bool :=
  let n := c.toNat
  n == 0x09 || n == 0x0A || n == 0x0D || (0x20 ≤ n && n ≤ 0x7E) || n == 0x85 ||
    (0xA0 ≤ n && n ≤ 0xD7FF) || (0xE000 ≤ n && n ≤ 0xFFFD && n != 0xFEFF) || 0x10000 ≤ n

/-- A line break as it counts in a scalar: those of ASCII become a line feed. -/
def breakText (c : Char) : Char := if c == '\u2028' || c == '\u2029' then c else '\n'

/-- The state of a reader. -/
structure Cursor where
  rest : List Char
  mark : Mark := {}
  /-- The anchors by name, with their numbers. -/
  anchors : List (String × Nat) := []
  /-- The prefixes that tag handles stand for. -/
  handles : List (String × String) := [("!", "!"), ("!!", "tag:yaml.org,2002:")]
  /-- Only blanks have been passed since the start of the line. -/
  inIndent : Bool := false
  /-- Where the text broke off. -/
  fault : Option Fault := none

/-- Readers of a part of a text. -/
abbrev Reads := StateT Cursor (Except Fault)

namespace Cursor

/-- Passes one character, or a carriage return with its line feed. -/
def next (c : Cursor) : Cursor :=
  match c.rest with
  | [] => c
  | '\r' :: '\n' :: cs =>
    { c with rest := cs, mark := ⟨c.mark.index + 2, c.mark.line + 1, 0⟩, inIndent := true }
  | x :: cs =>
    if isBreak x then
      { c with rest := cs, mark := ⟨c.mark.index + 1, c.mark.line + 1, 0⟩, inIndent := true }
    else
      { c with
        rest := cs, mark := ⟨c.mark.index + 1, c.mark.line, c.mark.column + 1⟩
        inIndent := c.inIndent && isBlank x }

/-- Passes some characters. -/
def skip : Nat → Cursor → Cursor
  | 0, c => c
  | n + 1, c => skip n c.next

/-- A line `---` or `...` begins here. -/
def atMarker (c : Cursor) (mark : Char) : Bool :=
  c.mark.column == 0 && [mark, mark, mark].isPrefixOf c.rest && isBlankz (c.rest.drop 3)

/-- A line that starts or ends a document begins here. -/
def atAnyMarker (c : Cursor) : Bool := c.atMarker '-' || c.atMarker '.'

/-- The sign `x` comes next, with a blank behind it. -/
def atIndicator (c : Cursor) (x : Char) : Bool :=
  match c.rest with
  | y :: cs => x == y && isBlankz cs
  | [] => false

/-- Where a mapping in a column ends. The end of the text counts as the start of a line, unless it is
left of the column. -/
def endMark (c : Cursor) (column : Nat) : Mark :=
  if c.rest.isEmpty && c.mark.column != 0 && column ≤ c.mark.column then
    ⟨c.mark.index, c.mark.line + 1, 0⟩
  else c.mark

end Cursor

namespace Reads

/-- Stops at a fault. -/
def fail {α : Type} (problem : String) : Reads α := do
  throw { problem, mark := (← get).mark }

/-- Reads a part of a text; if the text breaks off in it, `stub` stands in for it, and nothing more is
read. -/
def orCut {α : Type} (stub : Fault → α) (r : Reads α) : Reads α := fun c =>
  match r c with
  | .ok result => .ok result
  | .error f => .ok (stub f, { c with fault := some f })

/-- The text has broken off. -/
def isCut : Reads Bool := return (← get).fault.isSome

def mark : Reads Mark := return (← get).mark

/-- The next character. -/
def next? : Reads (Option Char) := return (← get).rest.head?

/-- Passes one character. -/
def bump : Reads Unit := modify Cursor.next

/-- A bound for the loops: no loop makes more steps than there are characters left. -/
def fuel : Reads Nat := return (← get).rest.length + 1

/-- Passes characters while they satisfy `p`, and gives them back. -/
def takeWhile (p : Char → Bool) : Reads (List Char) := do
  let c ← get
  let taken := c.rest.takeWhile p
  set (c.skip taken.length)
  return taken

/-- Passes the blanks, comments and line breaks in front of the next token; the result says whether an
implicit key may start there. In block context a tab cannot stand where a key may start, and a key may
start on every new line. -/
def skipToToken (inFlow : Bool) : Nat → Bool → Reads Bool
  | 0, keyAllowed => return keyAllowed
  | fuel + 1, keyAllowed => do
    match ← next? with
    | some c =>
      if c == ' ' || (c == '\t' && (inFlow || !keyAllowed)) then
        bump
        skipToToken inFlow fuel keyAllowed
      else if c == '#' then
        let _ ← takeWhile (!isBreak ·)
        skipToToken inFlow fuel keyAllowed
      else if isBreak c then
        bump
        skipToToken inFlow fuel (keyAllowed || !inFlow)
      else return keyAllowed
    | none => return keyAllowed

/-- Passes what stands in front of the next token in block context. -/
def skipBlock (keyAllowed : Bool) : Reads Bool := do
  skipToToken false (← fuel) (keyAllowed || (← get).inIndent)

/-- Passes what stands in front of the next token in flow context. -/
def skipFlow : Reads Unit := do
  let _ ← skipToToken true (← fuel) false

end Reads
end Yaml
end RequiredArgs
