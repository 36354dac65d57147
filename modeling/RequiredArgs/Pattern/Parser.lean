/-
# Reading patterns

`Ast.parse` reads a pattern from left to right and stops at its first fault. The reader's state is the
rest of the pattern, whether white space is skipped, and the names of the groups seen so far. Every
loop is bounded by the length of what is left to read.
-/

import RequiredArgs.Pattern.Ast
import RequiredArgs.Text.Blank
import RequiredArgs.Unicode.Property

namespace RequiredArgs
namespace Pattern

open Text (isBlank)

/-- What is left to read of a pattern of `size` characters. -/
structure Cursor where
  rest : List Char
  size : Nat
  /-- White space and comments are skipped. -/
  verbose : Bool := false
  groupNames : List (String × Span) := []

/-- The number of characters read. -/
def Cursor.pos (c : Cursor) : Nat := c.size - c.rest.length

/-- Readers of a part of a pattern. -/
abbrev Reads := StateT Cursor (Except Fault)

namespace Reads

/-- Stops at a fault. -/
def fail {α : Type} (cause : Cause) (start stop : Nat) (other : Option Span := none) : Reads α :=
  throw { cause, span := ⟨start, stop⟩, other }

def pos : Reads Nat := return (← get).pos

def rest : Reads (List Char) := return (← get).rest

/-- The next character. -/
def next? : Reads (Option Char) := return (← get).rest.head?

def atEnd : Reads Bool := return (← get).rest.isEmpty

/-- The next character is `c`. -/
def isNext (c : Char) : Reads Bool := return (← get).rest.head? == some c

/-- Leaves out white space and comments, which run from `#` to the end of the line. -/
def dropBlanks (inComment : Bool) : List Char → List Char
  | [] => []
  | c :: cs =>
    if inComment then dropBlanks (c != '\n') cs
    else if isBlank c then dropBlanks false cs
    else if c == '#' then dropBlanks true cs
    else c :: cs

/-- Skips white space if the pattern is verbose. -/
def skipSpace : Reads Unit :=
  modify fun s => if s.verbose then { s with rest := dropBlanks false s.rest } else s

/-- Passes one character; something is left after it. -/
def bump : Reads Bool := do
  modify fun s => { s with rest := s.rest.drop 1 }
  return !(← atEnd)

/-- Passes one character and the space behind it; something is left after it. -/
def bumpSpace : Reads Bool := do
  let _ ← bump
  skipSpace
  return !(← atEnd)

/-- Passes the first of some texts that is next. -/
def bumpAny (texts : List String) : Reads Bool := do
  let s ← get
  match texts.find? fun text => text.toList.isPrefixOf s.rest with
  | some text =>
    set { s with rest := s.rest.drop text.length }
    return true
  | none => return false

/-- The character after the next one, white space left out if the pattern is verbose. After `#` only
white space is passed; where nothing else follows, the first character counts. -/
def peekSpace? : Reads (Option Char) := do
  let s ← get
  let after := s.rest.drop 1
  if s.verbose then
    let found := match after.dropWhile isBlank with
      | '#' :: cs => cs.dropWhile isBlank
      | cs => cs
    return found.head?.or after.head?
  else return after.head?

/-- Collects characters while they satisfy `p`, with the white space between them skipped. -/
def collect (p : Char → Bool) : Nat → Reads (List Char)
  | 0 => return []
  | fuel + 1 => do
    match ← next? with
    | some c =>
      if p c then
        let _ ← bumpSpace
        return c :: (← collect p fuel)
      else return []
    | none => return []

/-- A bound for the loops: no loop makes more steps than there are characters left. -/
def fuel : Reads Nat := return (← get).rest.length + 1

/-! ## Numbers -/

/-- Skips blanks whether or not the pattern is verbose. -/
def skipBlanks : Reads Unit := modify fun s => { s with rest := s.rest.dropWhile isBlank }

/-- A decimal number below `2 ^ 32`, or the fault that stands in its place. -/
def decimal : Reads (Except Fault Nat) := do
  skipBlanks
  let start ← pos
  let digits ← collect Char.isDigit (← fuel)
  let span : Span := ⟨start, ← pos⟩
  for _ in List.range (← fuel) do
    if (← next?).any isBlank then
      let _ ← bumpSpace
  let n := digits.foldl (fun n c => n * 10 + (c.toNat - 48)) 0
  if digits.isEmpty then return .error { cause := .repetitionCountEmpty, span }
  else if n < UInt32.size then return .ok n
  else return .error { cause := .decimalInvalid, span }

/-- Gives up on a fault that was put off. -/
def force {α : Type} : Except Fault α → Reads α
  | .ok a => pure a
  | .error f => throw f

/-- The operand that a repetition takes from the items before it, which come in reverse. -/
def operand (items : List Ast) : Reads (Ast × List Ast) := do
  let p ← pos
  match items with
  | [] | .empty :: _ | .flags _ _ :: _ => fail .repetitionMissing p p
  | a :: before => return (a, before)

/-- Passes a `?` that makes a repetition reluctant; which texts match is not changed by it. -/
def passReluctance : Reads Unit := do
  if ← isNext '?' then
    let _ ← bump

/-- Repeats the last of the items by `?`, `*` or `+`. -/
def repeatLast (items : List Ast) (min : Nat) (max : Option Nat) : Reads (List Ast) := do
  let (a, before) ← operand items
  let _ ← bump
  passReluctance
  return .repetition ⟨a.span.start, ← pos⟩ min max a :: before

/-- Repeats the last of the items by a count in braces. -/
def repeatCounted (items : List Ast) : Reads (List Ast) := do
  let start ← pos
  let (a, before) ← operand items
  let unclosed {α : Type} : Reads α := do fail .repetitionCountUnclosed start (← pos)
  if !(← bumpSpace) then unclosed
  let lower ← decimal
  if ← atEnd then unclosed
  let (min, max) ← do
    if ← isNext ',' then
      if !(← bumpSpace) then unclosed
      if ← isNext '\x7d' then pure (← force lower, none)
      else
        let min ← force lower
        let max ← force (← decimal)
        pure (min, some max)
    else
      let n ← force lower
      pure (n, some n)
  if !(← isNext '\x7d') then unclosed
  if ← bumpSpace then passReluctance
  let stop ← pos
  if max.any (· < min) then fail .repetitionCountInvalid start stop
  return .repetition ⟨a.span.start, stop⟩ min max a :: before

/-! ## Escapes -/

/-- What an escape, or any other single item, stands for. -/
inductive Item where
  | literal (l : Literal)
  | dot (span : Span)
  | assertion (span : Span) (a : Assertion)
  | property (span : Span) (negated : Bool) (p : Property)
  | shorthand (span : Span) (negated : Bool) (s : Shorthand)

namespace Item

def span : Item → Span
  | literal l => l.span
  | dot s | assertion s _ | property s _ _ | shorthand s _ _ => s

def toAst : Item → Ast
  | literal l => .literal l
  | dot s => .dot s
  | assertion s a => .assertion s a
  | property s n p => .property s n p
  | shorthand s n c => .shorthand s n c

/-- An item as a member of a class. -/
def toClass : Item → Reads ClassAst
  | literal l => return .literal l
  | property s n p => return .property s n p
  | shorthand s n c => return .shorthand s n c
  | dot s | assertion s _ => fail .classEscapeInvalid s.start s.stop

/-- An item as an end of a range. -/
def toBound : Item → Reads Literal
  | literal l => return l
  | i => fail .classRangeLiteral i.span.start i.span.stop

end Item

def isHexDigit (c : Char) : Bool :=
  c.isDigit || ('a' ≤ c && c ≤ 'f') || ('A' ≤ c && c ≤ 'F')

/-- The character with a code in hexadecimal digits, if there is one. -/
def charOfHex? (digits : List Char) : Option Char :=
  let n := digits.foldl
    (fun n c => n * 16 + (if c.isDigit then c.toNat - 48 else c.toLower.toNat - 87)) 0
  if n.isValidChar then some (Char.ofNat n) else none

/-- Exactly `count` hexadecimal digits. -/
def hexDigits : Nat → Reads (List Char)
  | 0 => return []
  | count + 1 => do
    match ← next? with
    | some c =>
      let p ← pos
      if !isHexDigit c then fail .escapeHexInvalidDigit p (p + 1)
      let more ← bumpSpace
      if !more && count != 0 then
        let p ← pos
        fail .escapeUnexpectedEnd p p
      return c :: (← hexDigits count)
    | none =>
      let p ← pos
      fail .escapeUnexpectedEnd p p

/-- Hexadecimal digits up to a closing brace. -/
def hexUntilBrace : Nat → Reads (List Char)
  | 0 => return []
  | fuel + 1 => do
    match ← next? with
    | some c =>
      if c == '\x7d' then return []
      let p ← pos
      if !isHexDigit c then fail .escapeHexInvalidDigit p (p + 1)
      let _ ← bumpSpace
      return c :: (← hexUntilBrace fuel)
    | none => return []

/-- The character that `\x`, `\u` or `\U` stands for; the letter is next. -/
def hexEscape (start count : Nat) (isX : Bool) : Reads Literal := do
  if !(← bumpSpace) then
    let p ← pos
    fail .escapeUnexpectedEnd p p
  if ← isNext '\x7b' then
    let brace ← pos
    let _ ← bumpSpace
    let digits ← hexUntilBrace (← fuel)
    if ← atEnd then fail .escapeUnexpectedEnd brace (← pos)
    let stop ← pos
    let _ ← bumpSpace
    if digits.isEmpty then fail .escapeHexEmpty brace (← pos)
    match charOfHex? digits with
    | some char => return { span := ⟨start, ← pos⟩, char }
    | none => fail .escapeHexInvalid (brace + 1) stop
  else
    let first ← pos
    let digits ← hexDigits count
    match charOfHex? digits with
    | some char => return { span := ⟨start, ← pos⟩, char, isByte := isX }
    | none => fail .escapeHexInvalid first (← pos)

/-- Splits at the first place where `mark` stands. -/
def splitAt? (mark : List Char) : List Char → Option (List Char × List Char)
  | [] => none
  | c :: cs =>
    if mark.isPrefixOf (c :: cs) then some ([], (c :: cs).drop mark.length)
    else (splitAt? mark cs).map fun (a, b) => (c :: a, b)

/-- A property between braces: a name, or a name and a value. -/
def propertyOfText (cs : List Char) : Property :=
  match ((splitAt? ['!', '='] cs).or (splitAt? [':'] cs)).or (splitAt? ['='] cs) with
  | some (name, value) => .valued (.ofList name) (.ofList value)
  | none => .named (.ofList cs)

/-- The property that `\p` or `\P` asks for; the letter is next. -/
def propertyEscape : Reads Property := do
  if !(← bumpSpace) then
    let p ← pos
    fail .escapeUnexpectedEnd p p
  match ← next? with
  | some '\x7b' =>
    let _ ← bumpSpace
    let text ← collect (· != '\x7d') (← fuel)
    if ← atEnd then
      let p ← pos
      fail .escapeUnexpectedEnd p p
    let _ ← bump
    return propertyOfText text
  | some '\\' =>
    let p ← pos
    fail .propertyInvalid p (p + 1)
  | some c =>
    let _ ← bumpSpace
    return .named (.singleton c)
  | none =>
    let p ← pos
    fail .escapeUnexpectedEnd p p

/-- The word assertions that `\b` takes in braces. -/
def wordAssertion? : String → Option Assertion
  | "start" => some .wordStart
  | "end" => some .wordEnd
  | "start-half" => some .wordStartHalf
  | "end-half" => some .wordEndHalf
  | _ => none

/-- Letters of the assertions that `\b` takes in braces. -/
def isAssertionChar (c : Char) : Bool := c.isAlpha || c == '-'

/-- What `\b` followed by a brace stands for. If no letter follows the brace, it begins a counted
repetition and is left to be read. -/
def bracedAssertion (escape : Nat) : Reads Assertion := do
  let before ← get
  let start ← pos
  if !(← bumpSpace) then fail .wordBoundaryUnexpectedEnd escape (← pos)
  let first ← pos
  if !(← next?).any isAssertionChar then
    set before
    return .wordBoundary
  let name ← collect isAssertionChar (← fuel)
  if !(← isNext '\x7d') then fail .wordBoundaryUnclosed start (← pos)
  let stop ← pos
  let _ ← bump
  match wordAssertion? (.ofList name) with
  | some a => return a
  | none => fail .wordBoundaryUnrecognized first stop

/-- Characters that stand for themselves behind a backslash: those with a meaning of their own, and
every other ASCII sign but the angle brackets. -/
def isEscapable (c : Char) : Bool :=
  c.toNat < 128 && !c.isAlphanum && c != '<' && c != '>'

/-- Escapes for control characters. -/
def control? : Char → Option Char
  | 'a' => some '\x07'
  | 'f' => some '\x0C'
  | 't' => some '\t'
  | 'n' => some '\n'
  | 'r' => some '\r'
  | 'v' => some '\x0B'
  | _ => none

/-- Escapes for conditions. -/
def condition? : Char → Option Assertion
  | 'A' => some .textStart
  | 'z' => some .textEnd
  | 'B' => some .notWordBoundary
  | '<' => some .wordStart
  | '>' => some .wordEnd
  | _ => none

/-- Reads an escape; the backslash is next. -/
def escape : Reads Item := do
  let start ← pos
  if !(← bump) then fail .escapeUnexpectedEnd start (← pos)
  let c := (← next?).getD ' '
  if c.isDigit then fail .backreference start (start + 2)
  match c with
  | 'x' => return .literal (← hexEscape start 2 true)
  | 'u' => return .literal (← hexEscape start 4 false)
  | 'U' => return .literal (← hexEscape start 8 false)
  | 'p' | 'P' =>
    let p ← propertyEscape
    return .property ⟨start, ← pos⟩ (c == 'P') p
  | _ =>
    let _ ← bump
    let span : Span := ⟨start, ← pos⟩
    match c with
    | 'd' => return .shorthand span false .digit
    | 'D' => return .shorthand span true .digit
    | 's' => return .shorthand span false .space
    | 'S' => return .shorthand span true .space
    | 'w' => return .shorthand span false .word
    | 'W' => return .shorthand span true .word
    | 'b' =>
      if ← isNext '\x7b' then
        let a ← bracedAssertion start
        match a with
        | .wordBoundary => return .assertion span a
        | _ => return .assertion ⟨start, ← pos⟩ a
      else return .assertion span .wordBoundary
    | _ =>
      if isEscapable c then return .literal { span, char := c }
      match control? c, condition? c with
      | some char, _ => return .literal { span, char }
      | none, some a => return .assertion span a
      | none, none => fail .escapeUnrecognized span.start span.stop

/-- Reads a single item outside of a class. -/
def item : Reads Item := do
  let p ← pos
  let span : Span := ⟨p, p + 1⟩
  match ← next? with
  | some '\\' => escape
  | c? =>
    let _ ← bump
    match c? with
    | some '.' => return .dot span
    | some '^' => return .assertion span .lineStart
    | some '$' => return .assertion span .lineEnd
    | c? => return .literal { span, char := c?.getD ' ' }

/-! ## Classes -/

/-- The classes of ASCII characters that are known by name. -/
def asciiClass? : String → Option (List (Char × Char))
  | "alnum" => some [('0', '9'), ('A', 'Z'), ('a', 'z')]
  | "alpha" => some [('A', 'Z'), ('a', 'z')]
  | "ascii" => some [('\x00', '\x7F')]
  | "blank" => some [('\t', '\t'), (' ', ' ')]
  | "cntrl" => some [('\x00', '\x1F'), ('\x7F', '\x7F')]
  | "digit" => some [('0', '9')]
  | "graph" => some [('!', '~')]
  | "lower" => some [('a', 'z')]
  | "print" => some [(' ', '~')]
  | "punct" => some [('!', '/'), (':', '@'), ('[', '\x60'), ('\x7b', '~')]
  | "space" => some [('\t', '\r'), (' ', ' ')]
  | "upper" => some [('A', 'Z')]
  | "word" => some [('0', '9'), ('A', 'Z'), ('_', '_'), ('a', 'z')]
  | "xdigit" => some [('0', '9'), ('A', 'F'), ('a', 'f')]
  | _ => none

/-- Reads a class such as `[:alpha:]` if one is next, and otherwise nothing. -/
def asciiClass : Reads (Option ClassAst) := do
  let s ← get
  let start := s.pos
  match s.rest with
  | '[' :: ':' :: cs =>
    let (negated, body) := match cs with
      | '^' :: cs => (true, cs)
      | cs => (false, cs)
    let name := body.takeWhile (· != ':')
    match body.dropWhile (· != ':'), asciiClass? (.ofList name) with
    | ':' :: ']' :: rest, some ranges =>
      set { s with rest }
      return some (.ascii ⟨start, ← pos⟩ negated ranges)
    | _, _ => return none
  | _ => return none

/-- Reads a member of a class. -/
def classItem : Reads Item := do
  match ← next? with
  | some '\\' => escape
  | c? =>
    let p ← pos
    let _ ← bump
    return .literal { span := ⟨p, p + 1⟩, char := c?.getD ' ' }

/-- Reads a member of a class, or a range of characters. The bracket opened last, at `opened`, is
reported if the pattern ends within. -/
def classRange (opened : Span) : Reads ClassAst := do
  let first ← classItem
  skipSpace
  if ← atEnd then fail .classUnclosed opened.start opened.stop
  let after ← peekSpace?
  if !(← isNext '-') || after == some ']' || after == some '-' then first.toClass
  else
    if !(← bumpSpace) then fail .classUnclosed opened.start opened.stop
    let last ← classItem
    let lo ← first.toBound
    let hi ← last.toBound
    if hi.char < lo.char then fail .classRangeInvalid lo.span.start hi.span.stop
    return .range lo hi

/-- Reads any number of `-` at the front of a class. -/
def leadingDashes (start : Nat) : Nat → Reads (List ClassAst)
  | 0 => return []
  | fuel + 1 => do
    if ← isNext '-' then
      let p ← pos
      if !(← bumpSpace) then fail .classUnclosed start start
      return .literal { span := ⟨p, p + 1⟩, char := '-' } :: (← leadingDashes start fuel)
    else return []

/-- Reads the opening of a class: the bracket, a `^` that negates it, and the `-` and `]` that stand
for themselves because they come first. -/
def classOpen : Reads (Span × Bool × List ClassAst) := do
  let start ← pos
  let unclosed {α : Type} : Reads α := do fail .classUnclosed start (← pos)
  if !(← bumpSpace) then unclosed
  let negated ← isNext '^'
  if negated then
    if !(← bumpSpace) then unclosed
  let dashes ← leadingDashes start (← fuel)
  if dashes.isEmpty && (← isNext ']') then
    let p ← pos
    if !(← bumpSpace) then unclosed
    return (⟨start, ← pos⟩, negated, [.literal { span := ⟨p, p + 1⟩, char := ']' }])
  else return (⟨start, ← pos⟩, negated, dashes)

/-- The members read so far, in reverse, as one class. -/
def unionOf (p : Nat) : List ClassAst → ClassAst
  | [] => .empty ⟨p, p⟩
  | [a] => a
  | last :: before =>
    .union ⟨((last :: before).getLastD last).span.start, last.span.stop⟩ (last :: before).reverse

/-- Joins a class to the one before an operator, if there was an operator. -/
def joinPending (pending : Option (SetOp × ClassAst)) (rhs : ClassAst) : ClassAst :=
  match pending with
  | some (o, lhs) => .op ⟨lhs.span.start, rhs.span.stop⟩ o lhs rhs
  | none => rhs

/-- The operator written by two equal characters. -/
def setOp? : List Char → Option SetOp
  | '&' :: '&' :: _ => some .inter
  | '-' :: '-' :: _ => some .diff
  | '~' :: '~' :: _ => some .symmDiff
  | _ => none

/-- Reads a class up to and with its closing bracket. `members` are the members since the last
operator, in reverse, and `begun` is where they begin. -/
def classBody (opened : Span) :
    Nat → Option (SetOp × ClassAst) → Nat → List ClassAst → Reads ClassAst
  | 0, _, _, _ => fail .classUnclosed opened.start opened.stop
  | fuel + 1, pending, begun, members => do
    skipSpace
    let s ← get
    match s.rest with
    | [] => fail .classUnclosed opened.start opened.stop
    | '[' :: _ =>
      match ← asciiClass with
      | some c => classBody opened fuel pending begun (c :: members)
      | none =>
        let (span, negated, first) ← classOpen
        let body ← classBody span fuel none span.stop first.reverse
        let stop ← pos
        classBody opened fuel pending begun (.bracketed ⟨span.start, stop⟩ negated body :: members)
    | ']' :: _ =>
      let _ ← bump
      return joinPending pending (unionOf begun members)
    | rest =>
      match setOp? rest with
      | some o =>
        set { s with rest := rest.drop 2 }
        classBody opened fuel (some (o, joinPending pending (unionOf begun members))) (← pos) []
      | none => classBody opened fuel pending begun ((← classRange opened) :: members)

/-- Reads a bracketed class; the bracket is next. -/
def bracketed : Reads Ast := do
  let (span, negated, first) ← classOpen
  let body ← classBody span (← fuel) none span.stop first.reverse
  return .bracketed ⟨span.start, ← pos⟩ negated body

/-! ## Groups -/

/-- Characters of the names of groups. -/
def isNameChar (isFirst : Bool) (c : Char) : Bool :=
  let isAlphabetic := c.isAlpha || (c.toNat ≥ 128 && Unicode.alphabetic.contains c)
  let isNumeric := c.isDigit ||
    (c.toNat ≥ 128 && (Unicode.categoriesSet ["nd", "nl", "no"]).contains c)
  if isFirst then c == '_' || isAlphabetic
  else c == '_' || c == '.' || c == '[' || c == ']' || isAlphabetic || isNumeric

/-- Reads the characters of a group's name up to `>`. -/
def nameChars (isFirst : Bool) : Nat → Reads (List Char)
  | 0 => return []
  | fuel + 1 => do
    match ← next? with
    | none => return []
    | some c =>
      if c == '>' then return []
      let p ← pos
      if !isNameChar isFirst c then fail .groupNameInvalid p (p + 1)
      let _ ← bump
      return c :: (← nameChars false fuel)

/-- Reads a group's name and its `>`. -/
def groupName : Reads Unit := do
  let start ← pos
  let name ← nameChars true (← fuel)
  let stop ← pos
  if ← atEnd then fail .groupNameUnexpectedEnd stop stop
  let _ ← bump
  if name.isEmpty then fail .groupNameEmpty start start
  let text := String.ofList name
  let s ← get
  match s.groupNames.lookup text with
  | some earlier => fail .groupNameDuplicate start stop (some earlier)
  | none => set { s with groupNames := (text, ⟨start, stop⟩) :: s.groupNames }

/-- Reads flags up to `:` or `)`. `seen` are the flags so far with their places, `dash` is the place of
a `-` and `dangling` says that it came last. -/
def flagItems : Nat → List (Flag × Span) → Option Span → Bool → FlagChange → Reads FlagChange
  | 0, _, _, _, change => return change
  | fuel + 1, seen, dash, dangling, change => do
    let p ← pos
    let here : Span := ⟨p, p + 1⟩
    let go {α : Type} (k : Reads α) : Reads α := do
      if !(← bump) then
        let p ← pos
        fail .flagUnexpectedEnd p p
      k
    match ← next? with
    | none => fail .flagUnexpectedEnd p p
    | some c =>
      if c == ':' || c == ')' then
        match dash, dangling with
        | some d, true => fail .flagDanglingNegation d.start d.stop
        | _, _ => return change
      else if c == '-' then
        match dash with
        | some d => fail .flagRepeatedNegation here.start here.stop (some d)
        | none => go (flagItems fuel seen (some here) true change)
      else
        match Flag.ofChar? c with
        | none => fail .flagUnrecognized here.start here.stop
        | some f =>
          match seen.lookup f with
          | some earlier => fail .flagDuplicate here.start here.stop (some earlier)
          | none =>
            let change := if dash.isSome then { change with off := f :: change.off }
              else { change with on := f :: change.on }
            go (flagItems fuel ((f, here) :: seen) dash false change)

/-- What an opening parenthesis begins. -/
inductive Opening where
  | flags (change : FlagChange)
  | group (isCapture : Bool) (change : FlagChange)

/-- Reads an opening parenthesis with what says its kind. -/
def opening : Reads Opening := do
  let start ← pos
  let _ ← bump
  skipSpace
  if ← bumpAny ["?=", "?!", "?<=", "?<!"] then
    fail .lookAround start (← pos)
  let inner ← pos
  if ← bumpAny ["?P<", "?<"] then
    groupName
    return .group true {}
  else if ← bumpAny ["?"] then
    if ← atEnd then fail .groupUnclosed start (start + 1)
    let change ← flagItems (← fuel) [] none false {}
    let closes ← isNext ')'
    let _ ← bump
    if closes then
      if change.on.isEmpty && change.off.isEmpty then fail .repetitionMissing inner inner
      return .flags change
    else return .group false change
  else return .group true {}

/-- Reads a pattern, or the inside of a group up to its closing parenthesis. `group` is the open
parenthesis; `branches` are the alternatives read so far and `items` the parts of the current one,
both in reverse; `begun` and `itemsFrom` are where they begin. -/
def body (group : Option Span) : Nat → Nat → List Ast → Nat → List Ast → Reads Ast
  | 0, _, _, _, _ => return .empty
  | fuel + 1, begun, branches, itemsFrom, items => do
    skipSpace
    let p ← pos
    let branch := Ast.ofItems ⟨itemsFrom, p⟩ items.reverse
    let whole := Ast.ofBranches ⟨begun, p⟩ (branch :: branches).reverse
    match ← next? with
    | none =>
      match group with
      | some span => fail .groupUnclosed span.start span.stop
      | none => return whole
    | some '(' =>
      match ← opening with
      | .flags change =>
        modify fun s => { s with verbose := (change.state? .verbose).getD s.verbose }
        body group fuel begun branches itemsFrom (.flags ⟨p, ← pos⟩ change :: items)
      | .group isCapture change =>
        let outer := (← get).verbose
        modify fun s => { s with verbose := (change.state? .verbose).getD outer }
        let start ← pos
        let inner ← body (some ⟨p, p + 1⟩) fuel start [] start []
        modify fun s => { s with verbose := outer }
        let _ ← bump
        body group fuel begun branches itemsFrom (.group ⟨p, ← pos⟩ isCapture change inner :: items)
    | some ')' =>
      match group with
      | some _ => return whole
      | none => fail .groupUnopened p (p + 1)
    | some '|' =>
      let _ ← bump
      body group fuel begun (branch :: branches) (← pos) []
    | some '[' => body group fuel begun branches itemsFrom ((← bracketed) :: items)
    | some '?' => body group fuel begun branches itemsFrom (← repeatLast items 0 (some 1))
    | some '*' => body group fuel begun branches itemsFrom (← repeatLast items 0 none)
    | some '+' => body group fuel begun branches itemsFrom (← repeatLast items 1 none)
    | some '\x7b' => body group fuel begun branches itemsFrom (← repeatCounted items)
    | some _ => body group fuel begun branches itemsFrom ((← item).toAst :: items)

end Reads

/-- Reads a whole pattern. -/
def Ast.parse (pattern : String) : Except Fault Ast := do
  let cs := pattern.toList
  let (ast, _) ← (Reads.body none (2 * cs.length + 2) 0 [] 0 []).run { rest := cs, size := cs.length }
  match ast.tooDeep? nestLimit with
  | some span => throw { cause := .nestLimitExceeded nestLimit, span }
  | none => return ast

end Pattern
end RequiredArgs
