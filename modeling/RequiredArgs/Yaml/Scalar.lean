/-
# Scalars

The five ways to write a scalar. Within a plain or quoted scalar a single line break counts as a space
and further ones as themselves; blanks around line breaks do not count. A block scalar keeps its lines
(`|`) or folds them (`>`), and ends before the first line that is indented less.
-/

import RequiredArgs.Yaml.Cursor

namespace RequiredArgs
namespace Yaml

namespace Reads

/-- What a run of line breaks counts as: the first one, in the form it was read, and the others. -/
def folded (first : Char) (others : List Char) : List Char :=
  if first == '\n' then (if others.isEmpty then [' '] else others) else first :: others

/-- Passes blanks and line breaks and gives the line breaks. Within a plain scalar a tab may not stand
in the indentation, the first `indent` columns. -/
def lineBreaks (indent : Nat) : Nat → Reads (List Char)
  | 0 => return []
  | fuel + 1 => do
    match ← next? with
    | some c =>
      if isBreak c then
        bump
        return breakText c :: (← lineBreaks indent fuel)
      else if isBlank c then
        if c == '\t' && (← mark).column < indent then
          fail "found a tab character that violates indentation"
        bump
        lineBreaks indent fuel
      else return []
    | none => return []

/-- Blanks stand here and a line break behind them. -/
def blanksThenBreak (cs : List Char) : Bool :=
  match cs.dropWhile isBlank with
  | c :: _ => isBreak c
  | [] => false

/-! ## Plain scalars -/

/-- The signs that enclose and separate the parts of flow collections. -/
def isFlowSign (c : Char) : Bool :=
  c == ',' || c == '[' || c == ']' || c == '\x7b' || c == '\x7d'

/-- The signs that cannot start a plain scalar. -/
def isIndicator (c : Char) : Bool :=
  isFlowSign c || "-?:#&*!|>'\"%@\x60".toList.contains c

/-- A plain scalar can start here. -/
def startsPlain (inFlow : Bool) : List Char → Bool
  | [] => false
  | c :: cs =>
    (!isIndicator c && !isBlank c && !isBreak c) ||
      (c == '-' && !(cs.head?.any isBlank)) ||
      (!inFlow && (c == '?' || c == ':') && !isBlankz cs)

/-- Reads a run of characters of a plain scalar up to a blank, a line break or a sign that ends it. -/
def plainWord (inFlow : Bool) : Nat → Reads (List Char)
  | 0 => return []
  | fuel + 1 => do
    match (← get).rest with
    | [] => return []
    | c :: cs =>
      if isBlank c || isBreak c then return []
      else if inFlow && c == ':' && cs.head?.any (fun d => isFlowSign d || d == '?') then
        fail "found unexpected ':'"
      else if (c == ':' && isBlankz cs) || (inFlow && isFlowSign c) then return []
      else
        bump
        return c :: (← plainWord inFlow fuel)

/-- Reads the words of a plain scalar, which in block context stands right of `indent` columns on
every line. `gap` is what separates the next word from those before. -/
def plainWords (inFlow : Bool) (indent : Nat) : Nat → List Char → Reads (List Char)
  | 0, _ => return []
  | fuel + 1, gap => do
    let c ← get
    if c.atAnyMarker || c.rest.head? == some '#' then return []
    let word ← plainWord inFlow c.rest.length
    if word.isEmpty then return []
    let after ← get
    let blanks := after.rest.takeWhile isBlank
    if blanksThenBreak after.rest then
      let _ ← takeWhile isBlank
      let breaks ← lineBreaks indent (← Reads.fuel)
      if !inFlow && (← mark).column < indent then return gap ++ word
      else return gap ++ word ++ (← plainWords inFlow indent fuel
        (folded (breaks.headD '\n') (breaks.drop 1)))
    else if blanks.isEmpty then return gap ++ word
    else
      let _ ← takeWhile isBlank
      return gap ++ word ++ (← plainWords inFlow indent fuel blanks)

/-- Reads a plain scalar. -/
def plain (inFlow : Bool) (indent : Nat) : Reads String := do
  return .ofList (← plainWords inFlow indent (← fuel) [])

/-! ## Quoted scalars -/

/-- Within quotes a text cannot be cut by a document marker or the end of the text. -/
def checkQuoted : Reads Unit := do
  let c ← get
  if c.atAnyMarker then fail "found unexpected document indicator"
  if c.rest.isEmpty then fail "found unexpected end of stream"

/-- Reads the line breaks within a quoted scalar. -/
def quotedBreaks : Reads (List Char) := do
  let breaks ← lineBreaks 0 (← fuel)
  return folded (breaks.headD '\n') (breaks.drop 1)

/-- Reads a single-quoted scalar behind its opening quote; a quote within is written twice. -/
def singleQuoted : Nat → Reads (List Char)
  | 0 => fail "found unexpected end of stream"
  | fuel + 1 => do
    checkQuoted
    match (← get).rest with
    | '\'' :: '\'' :: _ =>
      bump
      bump
      return '\'' :: (← singleQuoted fuel)
    | '\'' :: _ =>
      bump
      return []
    | c :: cs =>
      if isBreak c || (isBlank c && blanksThenBreak cs) then
        let _ ← takeWhile isBlank
        let gap ← quotedBreaks
        return gap ++ (← singleQuoted fuel)
      else
        bump
        return c :: (← singleQuoted fuel)
    | [] => fail "found unexpected end of stream"

/-- What a one-letter escape stands for. -/
def escape? : Char → Option Char
  | '0' => some '\x00'
  | 'a' => some '\x07'
  | 'b' => some '\x08'
  | 't' | '\t' => some '\t'
  | 'n' => some '\n'
  | 'v' => some '\x0B'
  | 'f' => some '\x0C'
  | 'r' => some '\r'
  | 'e' => some '\x1B'
  | ' ' => some ' '
  | '"' => some '"'
  | '/' => some '/'
  | '\\' => some '\\'
  | 'N' => some '\u0085'
  | '_' => some '\u00A0'
  | 'L' => some '\u2028'
  | 'P' => some '\u2029'
  | _ => none

/-- The number of digits behind `\x`, `\u` and `\U`. -/
def codeLength? : Char → Option Nat
  | 'x' => some 2
  | 'u' => some 4
  | 'U' => some 8
  | _ => none

def isHexDigit (c : Char) : Bool :=
  c.isDigit || ('a' ≤ c && c ≤ 'f') || ('A' ≤ c && c ≤ 'F')

def hexValue (cs : List Char) : Nat :=
  cs.foldl (fun n c => n * 16 + (if c.isDigit then c.toNat - 48 else c.toLower.toNat - 87)) 0

/-- Reads an escape; the backslash has been passed. -/
def escaped : Reads Char := do
  let c := (← next?).getD ' '
  match escape? c, codeLength? c with
  | some x, _ =>
    bump
    return x
  | none, some n =>
    bump
    let digits := (← get).rest.take n
    if digits.length < n || !digits.all isHexDigit then
      fail "did not find expected hexdecimal number"
    let value := hexValue digits
    if !value.isValidChar then fail "found invalid Unicode character escape code"
    modify (Cursor.skip n)
    return Char.ofNat value
  | none, none => fail "found unknown escape character"

/-- Reads a double-quoted scalar behind its opening quote. A backslash in front of a line break joins
the lines without a space. -/
def doubleQuoted : Nat → Reads (List Char)
  | 0 => fail "found unexpected end of stream"
  | fuel + 1 => do
    checkQuoted
    match (← get).rest with
    | '"' :: _ =>
      bump
      return []
    | '\\' :: cs =>
      if cs.head?.any isBreak then
        bump
        bump
        let gap ← lineBreaks 0 (← Reads.fuel)
        return gap ++ (← doubleQuoted fuel)
      else
        bump
        let x ← escaped
        return x :: (← doubleQuoted fuel)
    | c :: cs =>
      if isBreak c || (isBlank c && blanksThenBreak cs) then
        let _ ← takeWhile isBlank
        let gap ← quotedBreaks
        return gap ++ (← doubleQuoted fuel)
      else
        bump
        return c :: (← doubleQuoted fuel)
    | [] => fail "found unexpected end of stream"

/-! ## Block scalars -/

/-- What is done with the line breaks at the end of a block scalar. -/
inductive Chomping where
  | strip | clip | keep
deriving DecidableEq, Repr

/-- Reads the sign for the end of a block scalar, if there is one. -/
def chomping? : Reads (Option Chomping) := do
  match ← next? with
  | some '+' =>
    bump
    return some .keep
  | some '-' =>
    bump
    return some .strip
  | _ => return none

/-- Reads the depth of a block scalar, if it is given. -/
def depth? : Reads (Option Nat) := do
  match ← next? with
  | some c =>
    if c == '0' then fail "found an indentation indicator equal to 0"
    else if c.isDigit then
      bump
      return some (c.toNat - 48)
    else return none
  | none => return none

/-- Reads the header of a block scalar behind its sign, and the line break that ends it. -/
def blockHeader : Reads (Chomping × Option Nat) := do
  let (chomping, depth) ← match ← chomping? with
    | some c => pure (c, ← depth?)
    | none =>
      let depth ← depth?
      pure ((← chomping?).getD .clip, depth)
  let _ ← takeWhile isBlank
  if (← next?) == some '#' then
    let _ ← takeWhile (!isBreak ·)
  match ← next? with
  | some c => if isBreak c then bump else fail "did not find expected comment or line break"
  | none => pure ()
  return (chomping, depth)

/-- Passes the spaces in front of a line, at most `indent` of them if that is known, and the empty
lines. Gives their line breaks and the greatest column reached. -/
def blankLines (indent : Option Nat) : Nat → Nat → Reads (List Char × Nat)
  | 0, deepest => return ([], deepest)
  | fuel + 1, deepest => do
    let c ← get
    let room := match indent with
      | some n => n - c.mark.column
      | none => c.rest.length
    let spaces := (c.rest.take room).takeWhile (· == ' ')
    set (c.skip spaces.length)
    let column := (← mark).column
    let deepest := max deepest column
    let within := match indent with
      | some n => column < n
      | none => true
    match ← next? with
    | some x =>
      if x == '\t' && within then
        fail "found a tab character where an indentation space is expected"
      else if isBreak x then
        bump
        let (breaks, deepest) ← blankLines indent fuel deepest
        return (breakText x :: breaks, deepest)
      else return ([], deepest)
    | none => return ([], deepest)

/-- Reads the lines of a block scalar of known indentation. `held` is the line break behind the last
line, `breaks` are those of the empty lines behind it, and `wasBlank` says that the last line began
with a blank. -/
def blockLines (isLiteral : Bool) (indent : Nat) :
    Nat → Option Char → List Char → Bool → Reads (List Char × Option Char × List Char)
  | 0, held, breaks, _ => return ([], held, breaks)
  | fuel + 1, held, breaks, wasBlank => do
    let c ← get
    if c.mark.column != indent || c.rest.isEmpty then return ([], held, breaks)
    let isBlankLine := c.rest.head?.any isBlank
    let joined :=
      if !isLiteral && held == some '\n' && !wasBlank && !isBlankLine then
        (if breaks.isEmpty then [' '] else []) ++ breaks
      else held.toList ++ breaks
    let line ← takeWhile (!isBreak ·)
    let held ← match ← next? with
      | some x =>
        bump
        pure (some (breakText x))
      | none => pure none
    let (breaks, _) ← blankLines (some indent) (← Reads.fuel) 0
    let (more, held, breaks) ← blockLines isLiteral indent fuel held breaks isBlankLine
    return (joined ++ line ++ more, held, breaks)

/-- Reads a block scalar behind its sign; `parent` is the least column of the node. -/
def blockScalar (isLiteral : Bool) (parent : Nat) : Reads String := do
  let (chomping, depth) ← blockHeader
  let (indent, breaks) ← match depth with
    | some n =>
      let indent := (parent - 1) + n
      pure (indent, (← blankLines (some indent) (← fuel) 0).1)
    | none =>
      let (breaks, deepest) ← blankLines none (← fuel) 0
      pure (max (max deepest parent) 1, breaks)
  let (text, held, breaks) ← blockLines isLiteral indent (← fuel) none breaks false
  let tail := match chomping with
    | .strip => []
    | .clip => held.toList
    | .keep => held.toList ++ breaks
  return .ofList (text ++ tail)

end Reads
end Yaml
end RequiredArgs
