/-
# Decimal texts of binary numbers

A decimal text is read as the nearest number of the form `mantissa * 2 ^ exponent` with a mantissa
below `2 ^ 53`, a tie going to the even mantissa. It is written with the fewest digits that read back
as the same number, and of those with the digits nearest to it, without an exponent.
-/

namespace RequiredArgs
namespace Text

/-- A number `mantissa * 2 ^ exponent` that is not negative. -/
structure Binary where
  mantissa : Nat
  exponent : Int
deriving DecidableEq, Repr

/-- A number `digits * 10 ^ exponent` that is not negative. -/
structure Decimal where
  digits : Nat
  exponent : Int
deriving DecidableEq, Repr

/-- The quotient rounded to the nearest integer, a tie going to the even one. -/
def roundQuotient (num den : Nat) : Nat :=
  let q := num / den
  let r := num % den
  if 2 * r < den then q else if den < 2 * r then q + 1 else q + q % 2

/-- The least exponent of a number. -/
def Binary.minExponent : Int := -1074

/-- The greatest exponent of a number. -/
def Binary.maxExponent : Int := 971

/-- The number times `2 ^ 1074 * 10 ^ 400`, which makes all comparisons exact on integers. -/
def Decimal.scaled (d : Decimal) : Nat := d.digits * Nat.pow 10 (d.exponent + 400).toNat * Nat.pow 2 1074

/-- The number times `2 ^ 1074 * 10 ^ 400`. -/
def Binary.scaled (b : Binary) : Nat := b.mantissa * Nat.pow 2 (b.exponent + 1074).toNat * Nat.pow 10 400

/-- The nearest number, if it is not too large. -/
def Decimal.nearest? (d : Decimal) : Option Binary :=
  let length := (toString d.digits).length
  if d.digits = 0 ∨ d.exponent + length < -390 then some ⟨0, Binary.minExponent⟩
  else if 310 < d.exponent + length then none
  else
    let shift := (-(d.exponent + 400)).toNat
    let num := d.scaled
    let den := Nat.pow 10 400 * Nat.pow 10 shift
    let q := Nat.log2 (num / den + 1) - 53
    let m := roundQuotient num (den * Nat.pow 2 q)
    let (m, q) := if m < Nat.pow 2 53 then (m, q) else (roundQuotient num (den * Nat.pow 2 (q + 1)), q + 1)
    let (m, q) := if m < Nat.pow 2 53 then (m, q) else (m / 2, q + 1)
    let exponent : Int := q + Binary.minExponent
    if exponent ≤ Binary.maxExponent then some ⟨m, exponent⟩ else none

/-- The fewest digits that read back as the number, for numbers other than zero. Of two such decimals
the nearer one is taken. -/
def Binary.shortest (b : Binary) : Decimal :=
  let value := b.scaled
  let readsBack (d : Decimal) : Bool := d.digits != 0 && d.nearest? == some b
  -- the exponent of ten just above the number
  let top : Int := ((toString (value / Nat.pow 2 1074)).length : Int) - 400
  let attempt (n : Nat) : Option Decimal :=
    let exponent : Int := top - n
    let unit := Nat.pow 10 (exponent + 400).toNat * Nat.pow 2 1074
    let below : Decimal := ⟨value / unit, exponent⟩
    let above : Decimal := ⟨value / unit + 1, exponent⟩
    match readsBack below, readsBack above with
    | true, true => some (if 2 * (value % unit) ≤ unit then below else above)
    | true, false => some below
    | false, true => some above
    | false, false => none
  (((List.range 18).drop 1).findSome? attempt).getD ⟨b.mantissa, 0⟩

/-- The number without an exponent and with at least one digit behind the point. -/
def Decimal.positional (d : Decimal) : String :=
  let ds := (toString d.digits).toList
  if 0 ≤ d.exponent then .ofList (ds ++ List.replicate d.exponent.toNat '0' ++ ['.', '0'])
  else
    let places := (-d.exponent).toNat
    let ds := List.replicate (places + 1 - ds.length) '0' ++ ds
    let fraction := (ds.drop (ds.length - places)).reverse.dropWhile (· == '0')
    .ofList (ds.take (ds.length - places) ++ '.' ::
      (if fraction.isEmpty then ['0'] else fraction.reverse))

/-- The text of a number. -/
def Binary.text (b : Binary) : String :=
  if b.mantissa = 0 then "0.0" else b.shortest.positional

/-- Reads digits with at most one point among them: their value and the number behind the point. -/
def pointDigits (cs : List Char) : Option (Nat × Nat) :=
  let whole := cs.takeWhile Char.isDigit
  let value := fun (ds : List Char) => ds.foldl (fun n c => n * 10 + (c.toNat - 48)) 0
  match cs.dropWhile Char.isDigit with
  | [] => if whole.isEmpty then none else some (value whole, 0)
  | '.' :: fraction =>
    if fraction.all Char.isDigit && !(whole.isEmpty && fraction.isEmpty) then
      some (value (whole ++ fraction), fraction.length)
    else none
  | _ => none

/-- Reads digits with an optional sign. -/
def signedDigits (cs : List Char) : Option Int :=
  let read (ds : List Char) : Option Nat :=
    if ds.isEmpty || !ds.all Char.isDigit then none
    else some (ds.foldl (fun n c => n * 10 + (c.toNat - 48)) 0)
  match cs with
  | '-' :: ds => (read ds).map fun n => -(n : Int)
  | '+' :: ds => (read ds).map fun n => (n : Int)
  | ds => (read ds).map fun n => (n : Int)

/-- Reads a decimal number without sign: digits, perhaps a point, perhaps an exponent. -/
def Decimal.ofChars? (cs : List Char) : Option Decimal :=
  let isMark := fun (c : Char) => c == 'e' || c == 'E'
  match pointDigits (cs.takeWhile (!isMark ·)), cs.dropWhile (!isMark ·) with
  | some (digits, places), [] => some ⟨digits, -places⟩
  | some (digits, places), _ :: power => (signedDigits power).map fun e => ⟨digits, e - places⟩
  | none, _ => none

end Text
end RequiredArgs
