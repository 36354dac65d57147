/-
# JSON values

The value type behind every JSON text the library reads or writes. Numbers are kept in two kinds:
`int` for the integers a 64-bit reader represents exactly, signed or unsigned, and `real` for every
other number, with its spelling.
-/

namespace RequiredArgs
namespace Json

/-- A JSON value; the members of an object keep the order in which they were written. -/
inductive Value where
  | null
  | bool (b : Bool)
  | int (n : Int)
  | real (lexeme : String)
  | str (s : String)
  | arr (items : List Value)
  | obj (members : List (String × Value))
deriving Repr, Inhabited

namespace Value

/-- The member called `name`; of several, the last one written. -/
def member? (name : String) : Value → Option Value
  | .obj members => (members.reverse.find? (·.1 == name)).map (·.2)
  | _ => none

/-- The text of a string value. -/
def str? : Value → Option String
  | .str s => some s
  | _ => none

/-- The truth value of a Boolean. -/
def bool? : Value → Option Bool
  | .bool b => some b
  | _ => none

/-- The integer of an integer value. -/
def int? : Value → Option Int
  | .int n => some n
  | _ => none

/-- The items of an array. -/
def arr? : Value → Option (List Value)
  | .arr items => some items
  | _ => none

/-- A number of 32 bits, unsigned. -/
def word32? (v : Value) : Option UInt32 :=
  v.int?.bind fun n => if 0 ≤ n ∧ n < 4294967296 then some (.ofNat n.toNat) else none

/-- A number of 64 bits, unsigned. -/
def word64? (v : Value) : Option UInt64 :=
  v.int?.bind fun n => if 0 ≤ n ∧ n < 18446744073709551616 then some (.ofNat n.toNat) else none

/-- A number of 64 bits, signed. -/
def int64? (v : Value) : Option Int64 :=
  v.int?.bind fun n => if Int64.minValue.toInt ≤ n ∧ n ≤ Int64.maxValue.toInt then some (.ofInt n) else none

/-- An array each of whose items `f` reads. -/
def listOf? {α : Type} (f : Value → Option α) (v : Value) : Option (List α) :=
  v.arr?.bind fun items => items.mapM f

/-- `null` is the absent value, anything else is read by `f`. -/
def optional? {α : Type} (f : Value → Option α) : Value → Option (Option α)
  | .null => some none
  | v => (f v).map some

end Value

/-- The members of a record: those of an object, or the items of an array that follow the order in
which the record's fields are declared. -/
def recordMembers? (fields : List String) : Value → Option (List (String × Value))
  | .obj members => some members
  | .arr items => if items.length ≤ fields.length then some (fields.zip items) else none
  | _ => none

/-- Looks up the member `name` and reads it with `f`; an absent member reads as `absent`. -/
def field? {α : Type} (members : List (String × Value)) (name : String) (absent : Option α)
    (f : Value → Option α) : Option α :=
  match members.find? (·.1 == name) with
  | some (_, v) => f v
  | none => absent

/-- No two members have one name. -/
def distinctNames (members : List (String × Value)) : Bool :=
  match members with
  | [] => true
  | (name, _) :: rest => !rest.any (·.1 == name) && distinctNames rest

end Json
end RequiredArgs
