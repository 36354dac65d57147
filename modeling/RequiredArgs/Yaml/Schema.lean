/-
# What plain scalars mean

A plain scalar without a local meaning is nothing, a boolean, an integer, a floating point number or
else a string. Integers are decimal without leading zeros, or hexadecimal, octal or binary behind
`0x`, `0o` and `0b`; any may have a sign in front.
-/

import RequiredArgs.Yaml.Node
import RequiredArgs.Text.Decimal
import RequiredArgs.Text.Escaped

namespace RequiredArgs
namespace Yaml

/-- The spellings of an absent value, the empty one apart. -/
def isNull (s : String) : Bool := s == "null" || s == "Null" || s == "NULL" || s == "~"

/-- The value of a boolean. -/
def bool? (s : String) : Option Bool :=
  if s == "true" || s == "True" || s == "TRUE" then some true
  else if s == "false" || s == "False" || s == "FALSE" then some false
  else none

/-- The value of a digit in any base up to sixteen. -/
def digit? (c : Char) : Option Nat :=
  if c.isDigit then some (c.toNat - 48)
  else if 'a' ≤ c && c ≤ 'f' then some (c.toNat - 87)
  else if 'A' ≤ c && c ≤ 'F' then some (c.toNat - 55)
  else none

/-- The value of one or more digits in a base. -/
def digits? (base : Nat) : List Char → Option Nat
  | [] => none
  | cs => cs.foldlM (fun n c => (digit? c).bind fun d =>
      if d < base then some (n * base + d) else none) 0

/-- Digits with a leading zero, which make a string. -/
def isPadded : List Char → Bool
  | '0' :: c :: cs => (c :: cs).all Char.isDigit
  | _ => false

/-- The value of an integer without its sign. -/
def magnitude? (cs : List Char) : Option Nat :=
  match cs with
  | '0' :: 'x' :: ds => digits? 16 ds
  | '0' :: 'o' :: ds => digits? 8 ds
  | '0' :: 'b' :: ds => digits? 2 ds
  | _ => if isPadded cs then none else digits? 10 cs

/-- The value of an integer. -/
def integer? (s : String) : Option Int :=
  match s.toList with
  | '-' :: cs => (magnitude? cs).map fun n => -(n : Int)
  | '+' :: cs => (magnitude? cs).map fun n => (n : Int)
  | cs => (magnitude? cs).map fun n => (n : Int)

/-- The value of an integer of 64 bits. -/
def int64? (s : String) : Option Int64 :=
  (integer? s).bind fun n =>
    if Int64.minValue.toInt ≤ n ∧ n ≤ Int64.maxValue.toInt then some (.ofInt n) else none

/-- The text of a floating point number, as it is named in messages. -/
def float? (s : String) : Option String :=
  let inf := [".inf", ".Inf", ".INF"]
  let finite (cs : List Char) : Option String :=
    if isPadded cs then none
    else ((Text.Decimal.ofChars? cs).bind Text.Decimal.nearest?).map Text.Binary.text
  match s.toList with
  | '+' :: cs => if inf.contains (String.ofList cs) then some "inf" else finite cs
  | '-' :: cs => if inf.contains (String.ofList cs) then some "-inf" else (finite cs).map ("-" ++ ·)
  | cs =>
    if inf.contains s then some "inf"
    else if [".nan", ".NaN", ".NAN"].contains s then some "NaN"
    else finite cs

/-- How an integer is named in messages, if it has at most 128 bits. -/
def integerNoun? (n : Int) : Option String :=
  if 0 ≤ n then
    if n < 18446744073709551616 then some s!"integer `{n}`"
    else if n < 340282366920938463463374607431768211456 then some s!"integer `{n}` as u128"
    else none
  else if Int64.minValue.toInt ≤ n then some s!"integer `{n}`"
  else if -170141183460469231731687303715884105728 ≤ n then some s!"integer `{n}` as i128"
  else none

/-- How a string is named in messages. -/
def stringNoun (s : String) : String := "string " ++ Text.quoted s

/-- How the value of a plain scalar is named in messages. -/
def plainNoun (s : String) : String :=
  if s.isEmpty || isNull s then "unit value"
  else match bool? s, (integer? s).bind integerNoun?, float? s with
    | some b, _, _ => s!"boolean `{b}`"
    | none, some noun, _ => noun
    | none, none, some text => s!"floating point `{text}`"
    | none, none, none => stringNoun s

/-- The prefix of the tags of the core schema. -/
def coreTag (name : String) : String := "tag:yaml.org,2002:" ++ name

/-- The message for a scalar that is not what was expected. A scalar that does not fit its own tag is
measured by the tag. -/
def mismatch (p : Props) (style : Style) (s expected : String) : String :=
  let wrongType (noun : String) := s!"invalid type: {noun}, expected {expected}"
  let wrongValue (wanted : String) := s!"invalid value: {stringNoun s}, expected {wanted}"
  match p.tag with
  | none => wrongType (if style = .plain then plainNoun s else stringNoun s)
  | some tag =>
    if tag == coreTag "bool" then
      match bool? s with
      | some b => wrongType s!"boolean `{b}`"
      | none => wrongValue "a boolean"
    else if tag == coreTag "int" then
      match (integer? s).bind integerNoun? with
      | some noun => wrongType noun
      | none => wrongValue "an integer"
    else if tag == coreTag "float" then
      match float? s with
      | some text => wrongType s!"floating point `{text}`"
      | none => wrongValue "a float"
    else if tag == coreTag "null" then
      if isNull s then wrongType "unit value" else wrongValue "null"
    else if tag.startsWith "!" && style = .plain then wrongType (plainNoun s)
    else wrongType (stringNoun s)

end Yaml
end RequiredArgs
