/-
# Reading JSON

`Value.parse?` reads one JSON document: a value between white space, nested at most 127 levels
deep. Strings decode their escapes, surrogate pairs included; a lone surrogate, a raw control
character or a malformed number makes the whole text unreadable.
-/

import RequiredArgs.Json.Value

namespace RequiredArgs
namespace Json

/-- The blanks that may stand between JSON tokens. -/
def isGap (c : Char) : Bool := c == ' ' || c == '\n' || c == '\r' || c == '\t'

/-- The text after its leading blanks. -/
def skipGap (cs : List Char) : List Char := cs.dropWhile isGap

/-- The value of a hexadecimal digit, in either case. -/
def hexValue? (c : Char) : Option Nat :=
  if '0' ≤ c ∧ c ≤ '9' then some (c.toNat - 48)
  else if 'a' ≤ c ∧ c ≤ 'f' then some (c.toNat - 87)
  else if 'A' ≤ c ∧ c ≤ 'F' then some (c.toNat - 55)
  else none

/-- The number written by four hexadecimal digits. -/
def unit? (a b c d : Char) : Option Nat := do
  let a ← hexValue? a
  let b ← hexValue? b
  let c ← hexValue? c
  let d ← hexValue? d
  return ((a * 16 + b) * 16 + c) * 16 + d

/-- A leading half of a surrogate pair. -/
def isLeadUnit (n : Nat) : Bool := 0xD800 ≤ n && n ≤ 0xDBFF

/-- A trailing half of a surrogate pair. -/
def isTrailUnit (n : Nat) : Bool := 0xDC00 ≤ n && n ≤ 0xDFFF

/-- The character an escape letter stands for. -/
def shortEscape? (c : Char) : Option Char :=
  match c with
  | '"' => some '"'
  | '\\' => some '\\'
  | '/' => some '/'
  | 'b' => some '\x08'
  | 'f' => some '\x0c'
  | 'n' => some '\n'
  | 'r' => some '\r'
  | 't' => some '\t'
  | _ => none

/-- The rest of a string after its opening mark: the characters up to the closing mark, and what
follows that mark. -/
def stringTail : List Char → Option (List Char × List Char)
  | [] => none
  | '"' :: rest => some ([], rest)
  | '\\' :: 'u' :: a :: b :: c :: d :: '\\' :: 'u' :: e :: f :: g :: h :: rest =>
    match unit? a b c d with
    | none => none
    | some lead =>
      if isLeadUnit lead then
        match unit? e f g h with
        | none => none
        | some trail =>
          if isTrailUnit trail then
            (stringTail rest).map fun (s, r) =>
              (Char.ofNat (0x10000 + (lead - 0xD800) * 0x400 + (trail - 0xDC00)) :: s, r)
          else none
      else if isTrailUnit lead then none
      else (stringTail ('\\' :: 'u' :: e :: f :: g :: h :: rest)).map fun (s, r) =>
        (Char.ofNat lead :: s, r)
  | '\\' :: 'u' :: a :: b :: c :: d :: rest =>
    match unit? a b c d with
    | none => none
    | some n =>
      if isLeadUnit n || isTrailUnit n then none
      else (stringTail rest).map fun (s, r) => (Char.ofNat n :: s, r)
  | '\\' :: e :: rest =>
    match shortEscape? e with
    | none => none
    | some c => (stringTail rest).map fun (s, r) => (c :: s, r)
  | c :: rest =>
    if c.toNat < 0x20 then none
    else (stringTail rest).map fun (s, r) => (c :: s, r)

/-- The number that decimal digits write. -/
def digitsValue (ds : List Char) : Nat := ds.foldl (fun n d => n * 10 + (d.toNat - 48)) 0

/-- The digits of an optional fraction, with its point, and the rest. -/
def fraction? : List Char → Option (List Char × List Char)
  | '.' :: rest =>
    let ds := rest.takeWhile Char.isDigit
    if ds.isEmpty then none else some ('.' :: ds, rest.dropWhile Char.isDigit)
  | cs => some ([], cs)

/-- The mark, sign and digits of an optional exponent, and the rest. -/
def exponent? : List Char → Option (List Char × List Char)
  | [] => some ([], [])
  | c :: rest =>
    if c == 'e' || c == 'E' then
      let sign := match rest with
        | '+' :: _ => ['+']
        | '-' :: _ => ['-']
        | _ => []
      let rest := rest.drop sign.length
      let ds := rest.takeWhile Char.isDigit
      if ds.isEmpty then none
      else some (c :: (sign ++ ds), rest.dropWhile Char.isDigit)
    else some ([], c :: rest)

/-- A number after its optional minus sign. Integers that fit 64 bits, signed or unsigned, are
integers; a negative zero and every other number keep their spelling. -/
def number? (negative : Bool) (cs : List Char) : Option (Value × List Char) :=
  let ds := cs.takeWhile Char.isDigit
  let rest := cs.dropWhile Char.isDigit
  if ds.isEmpty || (1 < ds.length && ds.head? == some '0') then none
  else do
    let (frac, rest) ← fraction? rest
    let (exp, rest) ← exponent? rest
    let n : Int := if negative then -(digitsValue ds : Int) else digitsValue ds
    let sign := if negative then ['-'] else []
    if frac.isEmpty && exp.isEmpty && !(negative && n == 0) &&
        Int64.minValue.toInt ≤ n && n < 18446744073709551616 then
      return (.int n, rest)
    else return (.real (.ofList (sign ++ ds ++ frac ++ exp)), rest)

mutual

/-- A value at the head of the text, and the rest. `depth` bounds the nesting, `fuel` the steps. -/
def value? (depth fuel : Nat) (cs : List Char) : Option (Value × List Char) :=
  match fuel with
  | 0 => none
  | fuel + 1 =>
    match cs with
    | 'n' :: 'u' :: 'l' :: 'l' :: rest => some (.null, rest)
    | 't' :: 'r' :: 'u' :: 'e' :: rest => some (.bool true, rest)
    | 'f' :: 'a' :: 'l' :: 's' :: 'e' :: rest => some (.bool false, rest)
    | '"' :: rest => (stringTail rest).map fun (s, r) => (.str (.ofList s), r)
    | '-' :: rest => number? true rest
    | '[' :: rest =>
      match depth with
      | 0 => none
      | depth + 1 =>
        match skipGap rest with
        | ']' :: rest => some (.arr [], rest)
        | rest => (items? depth fuel rest).map fun (vs, r) => (.arr vs, r)
    | '\x7b' :: rest =>
      match depth with
      | 0 => none
      | depth + 1 =>
        match skipGap rest with
        | '\x7d' :: rest => some (.obj [], rest)
        | rest => (members? depth fuel rest).map fun (ms, r) => (.obj ms, r)
    | cs => number? false cs

/-- The items of an array from its first one to the closing bracket. -/
def items? (depth fuel : Nat) (cs : List Char) : Option (List Value × List Char) :=
  match fuel with
  | 0 => none
  | fuel + 1 =>
    match value? depth fuel (skipGap cs) with
    | none => none
    | some (v, rest) =>
      match skipGap rest with
      | ',' :: rest => (items? depth fuel rest).map fun (vs, r) => (v :: vs, r)
      | ']' :: rest => some ([v], rest)
      | _ => none

/-- The members of an object from its first one to the closing brace. -/
def members? (depth fuel : Nat) (cs : List Char) : Option (List (String × Value) × List Char) :=
  match fuel with
  | 0 => none
  | fuel + 1 =>
    match skipGap cs with
    | '"' :: rest =>
      match stringTail rest with
      | none => none
      | some (k, rest) =>
        match skipGap rest with
        | ':' :: rest =>
          match value? depth fuel (skipGap rest) with
          | none => none
          | some (v, rest) =>
            match skipGap rest with
            | ',' :: rest =>
              (members? depth fuel rest).map fun (ms, r) => ((.ofList k, v) :: ms, r)
            | '\x7d' :: rest => some ([(.ofList k, v)], rest)
            | _ => none
        | _ => none
    | _ => none

end

/-- How deep arrays and objects may be nested in a readable document. -/
def maxDepth : Nat := 127

/-- The value that a whole text writes. -/
def Value.parse? (s : String) : Option Value :=
  let cs := s.toList
  match value? maxDepth (2 * cs.length + 2) (skipGap cs) with
  | some (v, rest) => if (skipGap rest).isEmpty then some v else none
  | none => none

end Json
end RequiredArgs
