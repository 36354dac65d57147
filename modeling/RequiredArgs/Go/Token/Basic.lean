/-
# Tokens of Go source texts

A source text is cut into tokens by taking the longest lexeme at each place. Line ends are tokens of
their own, since they can end a statement, and so are comments, which the parser drops; other white
space only separates. A place where no lexeme fits, such as an unclosed string, gives an `unknown`
token of one character.

Keywords are words: whether a word is a keyword depends on where it stands.
-/

import RequiredArgs.Unicode.Identifier

namespace RequiredArgs
namespace Go

/-- What a token is. -/
inductive Lexeme where
  /-- An identifier or a keyword. -/
  | word (text : String)
  /-- An integer, floating-point or imaginary literal. -/
  | number
  /-- A string literal with its quotation marks. -/
  | str (text : String)
  /-- A character literal. -/
  | rune
  /-- An operator or a bracket. -/
  | punct (text : String)
  | newline
  | comment
  | unknown
deriving DecidableEq, Repr, Inhabited

/-- A lexeme and the byte at which it starts. -/
structure Token where
  lexeme : Lexeme
  offset : Nat
deriving DecidableEq, Repr, Inhabited

/-- The size of a text in bytes. -/
def byteSize (cs : List Char) : Nat := cs.foldr (fun c n => c.utf8Size + n) 0

namespace Lexeme

/-- The white space that only separates tokens. -/
def isSpace (c : Char) : Bool :=
  c == ' ' || c == '\t' || c == '\r' || c == '\x0b' || c == '\x0c'

/-- The operators and brackets, longer ones first. A null character ends a statement. -/
def punctuation : List String :=
  ["...", "<<=", ">>=", "&^=",
   "&&", "||", "==", "!=", "<=", ">=", "<-", "<<", ">>", "&^", ":=", "++", "--",
   "+=", "-=", "*=", "/=", "%=", "&=", "|=", "^=",
   "+", "-", "*", "/", "%", "&", "|", "^", "<", ">", "=", "!", "(", ")", "[", "]",
   "\x7b", "\x7d", ",", ";", ".", ":", "~", "\x00"]

/-- The characters up to and including `*/`, or `none` if that does not come. -/
def commentLength? : List Char → Option Nat
  | [] => none
  | '*' :: '/' :: _ => some 2
  | _ :: rest => (commentLength? rest).map (· + 1)

/-- The characters up to and including the next back quote. -/
def rawLength? : List Char → Option Nat
  | [] => none
  | '\x60' :: _ => some 1
  | _ :: rest => (rawLength? rest).map (· + 1)

/-- A hexadecimal digit. -/
def isHex (c : Char) : Bool := c.isDigit || ('a' ≤ c && c ≤ 'f') || ('A' ≤ c && c ≤ 'F')

/-- An octal digit. -/
def isOctal (c : Char) : Bool := '0' ≤ c && c ≤ '7'

/-- The characters up to and including the closing quotation mark. A backslash takes the character
after it along, and must be followed by two, four or eight hexadecimal digits after `x`, `u` or
`U`. -/
def stringLength? : List Char → Option Nat
  | [] => none
  | '"' :: _ => some 1
  | '\n' :: _ => none
  | '\\' :: 'x' :: a :: b :: rest =>
    if isHex a && isHex b then (stringLength? rest).map (· + 4) else none
  | '\\' :: 'U' :: a :: b :: c :: d :: e :: f :: g :: h :: rest =>
    if [a, b, c, d, e, f, g, h].all isHex then (stringLength? rest).map (· + 10) else none
  | '\\' :: 'u' :: a :: b :: c :: d :: rest =>
    if [a, b, c, d].all isHex then (stringLength? rest).map (· + 6) else none
  | '\\' :: c :: rest =>
    if c == 'x' || c == 'u' || c == 'U' then none else (stringLength? rest).map (· + 2)
  | _ :: rest => (stringLength? rest).map (· + 1)

/-- The rest of a character literal after its opening mark. -/
def runeLength? : List Char → Option Nat
  | '\\' :: 'x' :: a :: b :: '\'' :: _ => if isHex a && isHex b then some 5 else none
  | '\\' :: 'u' :: a :: b :: c :: d :: '\'' :: _ =>
    if [a, b, c, d].all isHex then some 7 else none
  | '\\' :: 'U' :: a :: b :: c :: d :: e :: f :: g :: h :: '\'' :: _ =>
    if [a, b, c, d, e, f, g, h].all isHex then some 11 else none
  | '\\' :: a :: '\'' :: _ =>
    if ['a', 'b', 'f', 'n', 'r', 't', 'v', '\\', '\'', '"'].contains a then some 3 else none
  | '\\' :: a :: b :: c :: '\'' :: _ => if [a, b, c].all isOctal then some 5 else none
  | c :: '\'' :: _ => if c == '\'' || c == '\\' then none else some 2
  | _ => none

/-- The length of a run of digits in which single underscores may stand between two digits. -/
def digitRun (p : Char → Bool) : List Char → Nat
  | c :: '_' :: d :: rest =>
    if p c then (if p d then 2 + digitRun p (d :: rest) else 1) else 0
  | c :: rest => if p c then 1 + digitRun p rest else 0
  | [] => 0

/-- The length of an exponent with one of the given marks, zero if there is none. -/
def exponentLength (marks : List Char) : List Char → Nat
  | m :: s :: rest =>
    if marks.contains m then
      if s == '+' || s == '-' then
        if digitRun Char.isDigit rest = 0 then 0 else 2 + digitRun Char.isDigit rest
      else if digitRun Char.isDigit (s :: rest) = 0 then 0
      else 1 + digitRun Char.isDigit (s :: rest)
    else 0
  | _ => 0

/-- The length of digits behind a prefix of `k` characters and an optional underscore. -/
def afterMark (p : Char → Bool) (k : Nat) (cs : List Char) : Nat :=
  let rest := cs.drop k
  match rest with
  | '_' :: rest => if digitRun p rest = 0 then 0 else k + 1 + digitRun p rest
  | rest => if digitRun p rest = 0 then 0 else k + digitRun p rest

/-- The length of the integer literal at the head of a text. -/
def integerLength (cs : List Char) : Nat :=
  match cs with
  | '0' :: c :: _ =>
    if c == 'x' || c == 'X' then max 1 (afterMark isHex 2 cs)
    else if c == 'b' || c == 'B' then max 1 (afterMark (fun c => c == '0' || c == '1') 2 cs)
    else if c == 'o' || c == 'O' then max 1 (afterMark isOctal 2 cs)
    else max 1 (afterMark isOctal 1 cs)
  | '0' :: _ => 1
  | cs => digitRun Char.isDigit cs

/-- The length of the decimal floating-point literal at the head of a text. -/
def decimalFloatLength (cs : List Char) : Nat :=
  let whole := digitRun Char.isDigit cs
  match cs.drop whole with
  | '.' :: rest =>
    let part := digitRun Char.isDigit rest
    if whole = 0 && part = 0 then 0
    else whole + 1 + part + exponentLength ['e', 'E'] (rest.drop part)
  | rest =>
    let exp := exponentLength ['e', 'E'] rest
    if whole = 0 || exp = 0 then 0 else whole + exp

/-- The length of the hexadecimal floating-point literal at the head of a text. -/
def hexFloatLength (cs : List Char) : Nat :=
  match cs with
  | '0' :: x :: rest =>
    if x == 'x' || x == 'X' then
      let skip := match rest with
        | '_' :: _ => 1
        | _ => 0
      let whole := digitRun isHex (rest.drop skip)
      let lead := if whole = 0 then 0 else skip + whole
      let part := match rest.drop lead with
        | '.' :: frac => 1 + digitRun isHex frac
        | _ => 0
      let exp := exponentLength ['p', 'P'] (rest.drop (lead + part))
      if exp = 0 || (whole = 0 && part < 2) then 0 else 2 + lead + part + exp
    else 0
  | _ => 0

/-- The length of the longest number at the head of a text. -/
def numberLength (cs : List Char) : Nat :=
  let real := max (decimalFloatLength cs) (hexFloatLength cs)
  let forms := [integerLength cs, real, digitRun Char.isDigit cs]
  let imaginary := forms.map fun n => if n ≠ 0 && cs[n]? == some 'i' then n + 1 else 0
  (integerLength cs :: real :: imaginary).foldl max 0

/-- The lexeme that starts with `c` and goes on in `rest`, and how many characters of `rest` belong to
it. -/
def next (c : Char) (rest : List Char) : Lexeme × Nat :=
  if c == '\n' then (.newline, 0)
  else if Unicode.isIdentStart c then
    let more := rest.takeWhile Unicode.isIdentContinue
    (.word (.ofList (c :: more)), more.length)
  else if c == '"' then
    match stringLength? rest with
    | some n => (.str (.ofList (c :: rest.take n)), n)
    | none => (.unknown, 0)
  else if c == '\x60' then
    match rawLength? rest with
    | some n => (.str (.ofList (c :: rest.take n)), n)
    | none => (.unknown, 0)
  else if c == '\'' then
    match runeLength? rest with
    | some n => (.rune, n)
    | none => (.unknown, 0)
  else if c == '/' && rest.head? == some '/' then
    (.comment, (rest.takeWhile (· != '\n')).length)
  else if c == '/' && rest.head? == some '*' then
    match commentLength? (rest.drop 1) with
    | some n => (.comment, n + 1)
    | none => (.unknown, 0)
  else if numberLength (c :: rest) ≠ 0 then (.number, numberLength (c :: rest) - 1)
  else
    match punctuation.find? fun p => p.toList.isPrefixOf (c :: rest) with
    | some p => (.punct p, p.length - 1)
    | none => (.unknown, 0)

end Lexeme

namespace Token

/-- The tokens of a text whose first character is at byte `offset`; `fuel` bounds their number. -/
def scan (fuel offset : Nat) (cs : List Char) : List Token :=
  match fuel, cs with
  | 0, _ => []
  | _, [] => []
  | fuel + 1, c :: rest =>
    if Lexeme.isSpace c then scan fuel (offset + c.utf8Size) rest
    else
      let (lexeme, n) := Lexeme.next c rest
      { lexeme, offset } :: scan fuel (offset + byteSize (c :: rest.take n)) (rest.drop n)

/-- The mark that may stand at the very start of a text. -/
def byteOrderMark : Char := Char.ofNat 0xFEFF

/-- All tokens of a source text. -/
def ofText (text : List Char) : List Token :=
  match text with
  | c :: rest =>
    if c == byteOrderMark then scan rest.length c.utf8Size rest
    else scan text.length 0 text
  | [] => []

/-- The tokens that matter to the parser: all but the comments. -/
def significant (ts : List Token) : List Token := ts.filter (·.lexeme != .comment)

end Token
end Go
end RequiredArgs
