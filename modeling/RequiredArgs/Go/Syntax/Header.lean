/-
# Reading types and parameter lists

The parts of a function declaration that the rules look at are read into `TypeExpr` and `Param`. Only
the spine of a type is read here; array lengths, type arguments and the insides of other types are
passed over with the grammar.

In a parameter list a bare name is a type, unless a named parameter follows: then it is one of the
names of that parameter's type. So `a, b int, c` declares `a` and `b` of type `int` and one more
parameter of type `c`. At most nine names share a type; of a longer run only the last nine do. Behind
a bare name a keyword is read as one more name if a type follows it, so `a, chan T` declares `a` and
`chan` of type `T`.
-/

import RequiredArgs.Go.Grammar.Symbol
import RequiredArgs.Go.Syntax.Basic

namespace RequiredArgs
namespace Go

open Phrase (skipLines)

/-- The tokens after the given operator or bracket, and after any line ends before it. -/
def expect? (text : String) (ts : List Token) : Option (List Token) :=
  match skipLines ts with
  | t :: rest => if t.lexeme == .punct text then some rest else none
  | [] => none

/-- The tokens continue, after any line ends, with the given operator or bracket. -/
def startsWith (text : String) (ts : List Token) : Bool := (expect? text ts).isSome

/-- The kind of type that a keyword starts. -/
def keywordType? (w : String) : Option TypeExpr :=
  match w with
  | "map" => some .map
  | "chan" => some .channel
  | "func" => some .function
  | "interface" => some .interface
  | "struct" => some .struct
  | _ => none

/-- Passes over the type arguments after a named type, if there are any. -/
def genericSuffix (c : Place) (base : TypeExpr) (ts : List Token) : TypeExpr × List Token :=
  match (Symbol.typeArguments c).rests Symbol.rests ts with
  | rest :: _ => (.generic base, rest)
  | [] => (base, ts)

/-- A named type, qualified or not, with or without type arguments, after its first word. -/
def namedType (c : Place) (w : String) (ts : List Token) : TypeExpr × List Token :=
  let here := if c.lineEnds then ts else skipLines ts
  match here with
  | { lexeme := .punct ".", .. } :: rest =>
    match skipLines rest with
    | { lexeme := .word n, .. } :: rest => genericSuffix c (.qualified w n) rest
    | _ => genericSuffix c (.name w) ts
  | _ => genericSuffix c (.name w) ts

/-- The type at the head of the tokens, and what follows it. -/
def typeExpr? (fuel : Nat) (c : Place) (ts : List Token) : Option (TypeExpr × List Token) :=
  match fuel with
  | 0 => none
  | fuel + 1 =>
    match skipLines ts with
    | { lexeme := .punct "*", .. } :: rest =>
      (typeExpr? fuel c rest).map fun (t, r) => (.pointer t, r)
    | { lexeme := .punct "~", .. } :: rest =>
      (typeExpr? fuel c rest).map fun (t, r) => (.negated t, r)
    | { lexeme := .punct "(", .. } :: rest =>
      (typeExpr? fuel .inner rest).bind fun (t, r) => (expect? ")" r).map fun r => (.paren t, r)
    | { lexeme := .punct "[", .. } :: rest =>
      match expect? "]" rest with
      | some rest => (typeExpr? fuel c rest).map fun (t, r) => (.slice t, r)
      | none =>
        match (Symbol.rests (.expr .inner) rest).filterMap (expect? "]") with
        | rest :: _ => (typeExpr? fuel c rest).map fun (t, r) => (.array t, r)
        | [] => none
    | { lexeme := .punct "<-", .. } :: _ =>
      (Symbol.rests (.simpleType c) ts).head?.map fun r => (.channel, r)
    | { lexeme := .word w, .. } :: rest =>
      match keywordType? w with
      | some t => (Symbol.rests (.simpleType c) ts).head?.map fun r => (t, r)
      | none => some (namedType c w rest)
    | _ => none

/-- The type at the head of the tokens, between brackets. -/
def innerType? (ts : List Token) : Option (TypeExpr × List Token) :=
  typeExpr? (ts.length + 1) .inner ts

/-- An entry of a parameter list, before names are joined with the types that follow. -/
inductive ParamEntry where
  /-- A type, or a name whose type follows. -/
  | bare (t : TypeExpr)
  | named (name : String) (t : TypeExpr)
  | variadic (name : Option String) (t : TypeExpr)
deriving DecidableEq, Repr, Inhabited

namespace ParamEntry

/-- The tokens continue with what ends an entry. -/
def atEnd (ts : List Token) : Bool := startsWith "," ts || startsWith ")" ts

/-- An entry that starts with a name which a type follows, up to the end of the entry. -/
def ofNamed? (w : String) (rest : List Token) : Option (ParamEntry × List Token) :=
  match innerType? rest with
  | some (t, r) => if atEnd r then some (named w t, r) else none
  | none => none

/-- An entry that starts with a name. -/
def ofName? (w : String) (rest : List Token) : Option (ParamEntry × List Token) :=
  match expect? "..." rest with
  | some rest => (innerType? rest).map fun (t, r) => (variadic (some w) t, r)
  | none =>
    if atEnd rest then some (bare (.name w), rest)
    else some ((ofNamed? w rest).getD ((namedType .inner w rest).map bare id))

/-- The entry at the head of the tokens, and what follows it. Behind a bare name, `afterName`, every
word can be a name. -/
def read? (afterName : Bool) (ts : List Token) : Option (ParamEntry × List Token) :=
  match skipLines ts with
  | { lexeme := .punct "...", .. } :: rest =>
    (innerType? rest).map fun (t, r) => (variadic none t, r)
  | { lexeme := .word w, .. } :: rest =>
    if (keywordType? w).isSome then
      match if afterName then ofNamed? w rest else none with
      | some e => some e
      | none => (innerType? ts).map fun (t, r) => (bare t, r)
    else ofName? w rest
  | _ => (innerType? ts).map fun (t, r) => (bare t, r)

/-- The entry is a bare name. -/
def isBareName : ParamEntry → Bool
  | bare (.name _) => true
  | _ => false

/-- How many bare names can share the type of the named parameter behind them. -/
def maxShared : Nat := 8

/-- Joins names with the type that follows them. `pending` holds bare names not yet joined. -/
def group (pending : List String) : List ParamEntry → List Param
  | [] => pending.map fun n => { type := .name n }
  | bare (.name n) :: es => group (pending ++ [n]) es
  | bare t :: es => (pending.map fun n => { type := .name n }) ++ { type := t } :: group [] es
  | named n t :: es =>
    let types := pending.take (pending.length - maxShared)
    let names := pending.drop (pending.length - maxShared)
    (types.map fun n => { type := .name n }) ++ { names := names ++ [n], type := t } :: group [] es
  | variadic n t :: es =>
    (pending.map fun n => { type := .name n }) ++
      { names := n.toList, type := t, isVariadic := true } :: group [] es

end ParamEntry

/-- Passes over a broken entry: the tokens from the next comma or closing bracket on. -/
def skipEntry (depth : Nat) : List Token → List Token
  | [] => []
  | t :: rest =>
    match t.lexeme with
    | .punct "," => if depth = 0 then t :: rest else skipEntry depth rest
    | .punct "(" => skipEntry (depth + 1) rest
    | .punct ")" => if depth = 0 then t :: rest else skipEntry (depth - 1) rest
    | _ => skipEntry depth rest

/-- The entries up to the closing bracket, whether all of them could be read, and what follows the
bracket. -/
def paramEntries? (fuel : Nat) (afterName : Bool) (ts : List Token) :
    Option (List ParamEntry × Bool × List Token) :=
  match fuel with
  | 0 => none
  | fuel + 1 =>
    match expect? ")" ts with
    | some rest => some ([], true, rest)
    | none =>
      match ParamEntry.read? afterName ts with
      | some (e, rest) =>
        if ParamEntry.atEnd rest then follow fuel [e] true rest
        else follow fuel [e] false (skipEntry 0 rest)
      | none => follow fuel [] false (skipEntry 0 ts)
where
  /-- Puts an entry in front of those behind the next comma. -/
  follow (fuel : Nat) (es : List ParamEntry) (sound : Bool) (rest : List Token) :
      Option (List ParamEntry × Bool × List Token) :=
    match expect? "," rest with
    | some rest =>
      (paramEntries? fuel (es.any ParamEntry.isBareName) rest).map fun (more, ok, r) => (es ++ more, sound && ok, r)
    | none => (expect? ")" rest).map fun r => (es, sound, r)

/-- The parameter list at the head of the tokens, whether it is free of broken entries, and what
follows it. -/
def paramList? (ts : List Token) : Option (List Param × Bool × List Token) :=
  match expect? "(" ts with
  | none => none
  | some inside =>
    match expect? "," inside with
    | some rest => (expect? ")" rest).map fun r => ([], true, r)
    | none =>
      (paramEntries? (inside.length + 1) false inside).map fun (es, ok, r) =>
        (ParamEntry.group [] es, ok, r)

end Go
end RequiredArgs
