/-
# Writing JSON

Two layouts of a JSON value: `Value.pretty` puts every member and item on a line of its own,
indented by two spaces a level, with `[]` and `{}` for what is empty, and `Value.compact` writes no
blank at all. In strings only the quotation mark, the backslash and the control characters below
`U+0020` are escaped, `\b \f \n \r \t` by their short forms and the others as `\u00xx`.
-/

import RequiredArgs.Json.Value

namespace RequiredArgs
namespace Json

/-- The lower-case hexadecimal digit of a number below 16. -/
def hexDigit (n : Nat) : Char :=
  if n < 10 then Char.ofNat (48 + n) else Char.ofNat (87 + n)

/-- How one character is written between quotation marks. -/
def escapeChar (c : Char) : List Char :=
  if c = '"' then ['\\', '"']
  else if c = '\\' then ['\\', '\\']
  else if c = '\x08' then ['\\', 'b']
  else if c = '\x0c' then ['\\', 'f']
  else if c = '\n' then ['\\', 'n']
  else if c = '\r' then ['\\', 'r']
  else if c = '\t' then ['\\', 't']
  else if c.toNat < 0x20 then
    ['\\', 'u', '0', '0', hexDigit (c.toNat / 16), hexDigit (c.toNat % 16)]
  else [c]

/-- A string between quotation marks. -/
def quote (s : String) : List Char :=
  '"' :: (s.toList.flatMap escapeChar ++ ['"'])

/-- The decimal digits of a natural number. -/
def natDigits (n : Nat) : List Char :=
  if n < 10 then [Char.ofNat (48 + n)] else natDigits (n / 10) ++ [Char.ofNat (48 + n % 10)]

/-- An integer in decimal, with a sign if it is negative. -/
def intDigits : Int → List Char
  | .ofNat n => natDigits n
  | .negSucc n => '-' :: natDigits (n + 1)

/-- The line break in front of an entry at nesting depth `depth`. -/
def lineBreak (depth : Nat) : List Char := '\n' :: List.replicate (2 * depth) ' '

namespace Value

mutual

/-- A value whose entries, if it has any, stand one level deeper than `depth`. -/
def layout (depth : Nat) : Value → List Char
  | .null => "null".toList
  | .bool true => "true".toList
  | .bool false => "false".toList
  | .int n => intDigits n
  | .real lexeme => lexeme.toList
  | .str s => quote s
  | .arr [] => ['[', ']']
  | .arr (v :: vs) =>
      '[' :: (lineBreak (depth + 1) ++ (layout (depth + 1) v ++
        (layoutItems (depth + 1) vs ++ (lineBreak depth ++ [']']))))
  | .obj [] => ['\x7b', '\x7d']
  | .obj ((k, v) :: ms) =>
      '\x7b' :: (lineBreak (depth + 1) ++ (quote k ++ (':' :: ' ' :: (layout (depth + 1) v ++
        (layoutMembers (depth + 1) ms ++ (lineBreak depth ++ ['\x7d']))))))

/-- The items of an array after its first, each behind a comma. -/
def layoutItems (depth : Nat) : List Value → List Char
  | [] => []
  | v :: vs => ',' :: (lineBreak depth ++ (layout depth v ++ layoutItems depth vs))

/-- The members of an object after its first, each behind a comma. -/
def layoutMembers (depth : Nat) : List (String × Value) → List Char
  | [] => []
  | (k, v) :: ms =>
      ',' :: (lineBreak depth ++ (quote k ++ (':' :: ' ' ::
        (layout depth v ++ layoutMembers depth ms))))

end

/-- The indented layout of a value. -/
def pretty (v : Value) : String := .ofList (layout 0 v)

mutual

/-- A value without blanks. -/
def tight : Value → List Char
  | .null => "null".toList
  | .bool true => "true".toList
  | .bool false => "false".toList
  | .int n => intDigits n
  | .real lexeme => lexeme.toList
  | .str s => quote s
  | .arr vs => '[' :: (tightItems vs ++ [']'])
  | .obj ms => '\x7b' :: (tightMembers ms ++ ['\x7d'])

/-- Items between commas. -/
def tightItems : List Value → List Char
  | [] => []
  | [v] => tight v
  | v :: vs => tight v ++ (',' :: tightItems vs)

/-- Members between commas. -/
def tightMembers : List (String × Value) → List Char
  | [] => []
  | [(k, v)] => quote k ++ (':' :: tight v)
  | (k, v) :: ms => quote k ++ (':' :: (tight v ++ (',' :: tightMembers ms)))

end

/-- The layout of a value on one line. -/
def compact (v : Value) : String := .ofList (tight v)

end Value
end Json
end RequiredArgs
