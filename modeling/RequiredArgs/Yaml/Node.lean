/-
# YAML documents

A document is a tree of nodes. A node keeps the mark where it starts, its tag, and the number of its
anchor; an alias keeps the number of the anchor it stands for, so that a document may refer to a node
from within it. Where a text stops being YAML, the tree ends in a `cut`: all that was read before it is
kept, since a fault of the contents that comes first is the one to report.
-/

namespace RequiredArgs
namespace Yaml

/-- A place in a text; line and column are counted from zero. -/
structure Mark where
  index : Nat := 0
  line : Nat := 0
  column : Nat := 0
deriving DecidableEq, Repr, Inhabited

/-- The place as it is named in messages, counted from one. -/
def Mark.text (m : Mark) : String := s!"line {m.line + 1} column {m.column + 1}"

/-- What is added to a message that has a place; the start of the text is not named. -/
def Mark.suffix (m : Mark) : String :=
  if m.line = 0 ∧ m.column = 0 then "" else " at " ++ m.text

/-- What is wrong with a text that is no YAML. -/
structure Fault where
  problem : String
  mark : Mark
deriving DecidableEq, Repr, Inhabited

/-- The wording of a fault, with its place. -/
def Fault.message (f : Fault) : String := f.problem ++ f.mark.suffix

/-- How a scalar is written. -/
inductive Style where
  | plain | singleQuoted | doubleQuoted | literal | folded
deriving DecidableEq, Repr, Inhabited

/-- What may stand in front of a node. -/
structure Props where
  tag : Option String := none
  anchor : Option Nat := none
deriving DecidableEq, Repr, Inhabited

/-- A node of a document. -/
inductive Node where
  | scalar (mark : Mark) (props : Props) (style : Style) (text : String)
  | seq (mark : Mark) (props : Props) (items : List Node)
  | map (mark : Mark) (props : Props) (entries : List (Node × Node))
  | reference (mark : Mark) (anchor : Nat)
  /-- The text breaks off here. -/
  | cut (fault : Fault)
deriving Repr, Inhabited

namespace Node

/-- Where the node starts. -/
def mark : Node → Mark
  | scalar m _ _ _ | seq m _ _ | map m _ _ | reference m _ => m
  | cut fault => fault.mark

/-- The node behind some properties that start at `m`. -/
def withProps (m : Mark) (p : Props) : Node → Node
  | scalar _ _ style text => scalar m p style text
  | seq _ _ items => seq m p items
  | map _ _ entries => map m p entries
  | reference a n => reference a n
  | cut fault => cut fault

/-- A node without content. -/
def empty (m : Mark) (p : Props := {}) : Node := scalar m p .plain ""

mutual

/-- The last node, in reading order, with the given anchor. -/
def anchored? (n : Nat) : Node → Option Node
  | scalar m p style text => if p.anchor = some n then some (scalar m p style text) else none
  | seq m p items =>
    (anchoredInList? n items).or (if p.anchor = some n then some (seq m p items) else none)
  | map m p entries =>
    (anchoredInEntries? n entries).or (if p.anchor = some n then some (map m p entries) else none)
  | reference _ _ | cut _ => none

/-- The last node of a list, in reading order, with the given anchor. -/
def anchoredInList? (n : Nat) : List Node → Option Node
  | [] => none
  | a :: as => (anchoredInList? n as).or (a.anchored? n)

/-- The last node of some entries, in reading order, with the given anchor. -/
def anchoredInEntries? (n : Nat) : List (Node × Node) → Option Node
  | [] => none
  | (k, v) :: es => ((anchoredInEntries? n es).or (v.anchored? n)).or (k.anchored? n)

end

end Node

/-- What a text holds: its first document, if there is one, and whether something follows it. -/
structure Stream where
  root : Option Node := none
  hasMore : Bool := false
deriving Repr, Inhabited

end Yaml
end RequiredArgs
