/-
# Reading source files

A source file is a sequence of items, each ended by a line end, a semicolon or the end of the text:
package clauses, imports, function and method declarations, and statements. Imports and declarations
are kept, the rest is only checked against the grammar.

A file with errors is still read as far as it goes. A declaration whose body is broken is kept, and
reading goes on after the brace that closes the body; anything else that is broken is passed over up
to the next line end outside of braces.
-/

import RequiredArgs.Go.Declaration
import RequiredArgs.Go.Syntax.Header

namespace RequiredArgs
namespace Go

open Phrase (skipLines)

/-- What is kept of an item. -/
inductive Item where
  /-- An import: its path as written and its name. -/
  | imported (path : String) (name : Option String)
  /-- A declaration: its name, receiver list and parameters, and the byte at which it starts. -/
  | declared (name : String) (receiver params : List Param) (offset : Nat)
deriving DecidableEq, Repr, Inhabited

/-- Items that were read, whether they were free of errors, and the tokens that remain. -/
structure Reading where
  items : List Item := []
  isSound : Bool := true
  rest : List Token
deriving Repr

/-- The tokens after the brace that closes the one before the first token. -/
def closeBrace? (depth : Nat) : List Token → Option (List Token)
  | [] => none
  | t :: rest =>
    match t.lexeme with
    | .punct "\x7b" => closeBrace? (depth + 1) rest
    | .punct "\x7d" => if depth = 0 then some rest else closeBrace? (depth - 1) rest
    | _ => closeBrace? depth rest

/-- The tokens after the next line end that is outside of braces. -/
def resync (depth : Nat) : List Token → List Token
  | [] => []
  | t :: rest =>
    match t.lexeme with
    | .newline => if depth = 0 then rest else resync depth rest
    | .punct "\x7b" => resync (depth + 1) rest
    | .punct "\x7d" => resync (depth - 1) rest
    | _ => resync depth rest

/-- One import: an optional name, a dot or an underscore, and the path. -/
def importSpec? (ts : List Token) : Option (Item × List Token) :=
  match skipLines ts with
  | { lexeme := .str path, .. } :: rest => some (.imported path none, rest)
  | { lexeme := .word n, .. } :: rest =>
    match skipLines rest with
    | { lexeme := .str path, .. } :: rest => some (.imported path (some n), rest)
    | _ => none
  | { lexeme := .punct ".", .. } :: rest =>
    match skipLines rest with
    | { lexeme := .str path, .. } :: rest => some (.imported path (some "."), rest)
    | _ => none
  | _ => none

/-- The imports up to the closing bracket. -/
def importSpecs? (fuel : Nat) (ts : List Token) : Option (List Item × List Token) :=
  match fuel with
  | 0 => none
  | fuel + 1 =>
    match expect? ")" ts with
    | some rest => some ([], rest)
    | none =>
      match importSpec? ts with
      | none => none
      | some (i, rest) =>
        match rest with
        | t :: after =>
          if Symbol.isTerminator t.lexeme then
            (importSpecs? fuel after).map fun (is, r) => (i :: is, r)
          else (expect? ")" rest).map fun r => ([i], r)
        | [] => none

/-- An import declaration after its keyword. -/
def importDecl? (ts : List Token) : Option (List Item × List Token) :=
  match expect? "(" ts with
  | some rest => importSpecs? (rest.length + 1) rest
  | none => (importSpec? ts).map fun (i, r) => ([i], r)

/-- The tokens after an optional list of type parameters. -/
def afterTypeParams? (ts : List Token) : Option (List Token) :=
  if startsWith "[" ts then (Symbol.rests .typeParams ts).head? else some ts

/-- The name, receiver list and parameters of a declaration, whether they are free of errors, and
the tokens after them. -/
def funcHeader? (ts : List Token) :
    Option (String × List Param × List Param × Bool × List Token) :=
  match skipLines ts with
  | { lexeme := .word name, .. } :: rest => do
    let rest ← afterTypeParams? rest
    let (params, ok, rest) ← paramList? rest
    return (name, [], params, ok, rest)
  | _ => do
    let (receiver, ok, rest) ← paramList? ts
    match skipLines rest with
    | { lexeme := .word name, .. } :: rest => do
      let (params, ok', rest) ← paramList? rest
      return (name, receiver, params, ok && ok', rest)
    | _ => none

/-- Reads the result of a declaration and checks its body, if it has one. -/
def afterHeader (ts : List Token) : Bool × List Token :=
  match Symbol.rests (.result .line) ts with
  | [] => (false, ts)
  | ts :: _ =>
    match ts with
    | { lexeme := .punct "\x7b", .. } :: inside =>
      match closeBrace? 0 inside with
      | none => (false, [])
      | some rest => ((Symbol.rests .block ts).any (·.length == rest.length), rest)
    | _ => (true, ts)

/-- A declaration after its keyword, which is at byte `offset`. -/
def funcDecl? (offset : Nat) (ts : List Token) : Option Reading :=
  (funcHeader? ts).map fun (name, receiver, params, ok, rest) =>
    let (sound, rest) := afterHeader rest
    { items := [.declared name receiver params offset], isSound := ok && sound, rest }

/-- What can follow an item. -/
def endsItem : List Token → Bool
  | [] => true
  | t :: _ => Symbol.isTerminator t.lexeme

/-- A statement that is an item. -/
def statementItem (ts : List Token) : Reading :=
  match (Symbol.rests (.statement false) ts).find? endsItem with
  | some rest => { rest }
  | none => { isSound := false, rest := resync 0 ts }

/-- The item that starts with token `t`. -/
def readItem (t : Token) (after : List Token) : Reading :=
  match t.lexeme with
  | .word "package" =>
    match skipLines after with
    | { lexeme := .word _, .. } :: rest => { rest }
    | _ => { isSound := false, rest := resync 0 after }
  | .word "import" =>
    match importDecl? after with
    | some (items, rest) => { items, rest }
    | none => { isSound := false, rest := resync 0 after }
  | .word "func" => (funcDecl? t.offset after).getD (statementItem (t :: after))
  | _ => statementItem (t :: after)

/-- Passes the end of an item; without one the rest of the line is an error. -/
def passEnd (ts : List Token) : Bool × List Token :=
  match ts with
  | [] => (true, [])
  | t :: rest => if Symbol.isTerminator t.lexeme then (true, rest) else (false, resync 0 ts)

/-- The items of a file, and whether all of it is free of errors. -/
def readItems (fuel : Nat) (ts : List Token) : List Item × Bool :=
  match fuel with
  | 0 => ([], ts.isEmpty)
  | fuel + 1 =>
    match skipLines ts with
    | [] => ([], true)
    | t :: after =>
      let reading := readItem t after
      let (ended, rest) := passEnd (after.drop (after.length - reading.rest.length))
      let (items, sound) := readItems fuel rest
      (reading.items ++ items, reading.isSound && ended && sound)

/-- The characters in front of byte `n`. -/
def takeBytes (n : Nat) : List Char → List Char
  | [] => []
  | c :: cs => if n = 0 then [] else c :: takeBytes (n - c.utf8Size) cs

/-- Line, column and offset of byte `offset` of a text. -/
def siteOf (text : List Char) (offset : Nat) : Site :=
  let before := takeBytes offset text
  let lineStart := before.reverse.takeWhile (· != '\n')
  { line := .ofNat (1 + before.count '\n')
    column := .ofNat (1 + byteSize lineStart)
    offset := .ofNat offset }

/-- A parameter group of a declaration. -/
def Param.toGroup (p : Param) : ParamGroup where
  names := p.names
  shape := if p.isVariadic then .unsupported .variadic else p.type.shape

/-- The imports among the items of a file. -/
def importsOf (items : List Item) : List (String × Option String) :=
  items.filterMap fun
    | .imported path name => some (path, name)
    | _ => none

/-- The declarations among the items of a file with the given text. -/
def functionsOf (text : List Char) (items : List Item) : List FuncDecl :=
  items.filterMap fun
    | .declared name receiver params offset => some
        { name
          receiver := receiverOf receiver
          params := params.map Param.toGroup
          site := siteOf text offset }
    | _ => none

namespace SourceFile

/-- Reads a source file. -/
def parse (path source : String) : SourceFile :=
  let text := source.toList
  let tokens := Token.significant (Token.ofText text)
  let (items, sound) := readItems (tokens.length + 1) tokens
  { path
    imports := .ofList (importsOf items)
    functions := functionsOf text items
    hasSyntaxErrors := !sound }

end SourceFile
end Go
end RequiredArgs
