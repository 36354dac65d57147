/-
# Grammars over tokens

A `Phrase` describes a set of token sequences. Line ends are white space in front of most tokens and
end a statement in front of others, so there are two ways to ask for a token: `token` passes over
line ends, `here` does not. Alternatives are of two kinds as well: `either` keeps the outcomes of both
sides, `orElse` looks at its second side only if the first has no outcome.

Phrases refer to each other by symbols. `Phrase.rests` gives, for a meaning of the symbols, what can
remain of a token sequence after the phrase; `rests` closes the recursion through the symbols with a
bound on its depth.
-/

import RequiredArgs.Go.Token.Basic

namespace RequiredArgs
namespace Go

/-- A description of token sequences that refers to symbols in `σ`. -/
inductive Phrase (σ : Type) where
  /-- Nothing. -/
  | empty
  /-- No sequence at all. -/
  | never
  /-- One token, after any line ends. -/
  | token (p : Lexeme → Bool)
  /-- One token, right here. -/
  | here (p : Lexeme → Bool)
  /-- Nothing, if such a token comes after any line ends. -/
  | before (p : Lexeme → Bool)
  /-- Nothing, unless a line end comes. -/
  | sameLine
  | seq (a b : Phrase σ)
  | either (a b : Phrase σ)
  | orElse (a b : Phrase σ)
  | sym (s : σ)

namespace Phrase

/-- The tokens after any line ends. -/
def skipLines (ts : List Token) : List Token := ts.dropWhile (·.lexeme == .newline)

/-- Keeps one of several remainders of the same length. -/
def distinct : List (List Token) → List (List Token)
  | [] => []
  | r :: rs => if rs.any (·.length == r.length) then distinct rs else r :: distinct rs

/-- What can remain of the tokens after the phrase. -/
def rests {σ : Type} (meaning : σ → List Token → List (List Token)) :
    Phrase σ → List Token → List (List Token)
  | .empty, ts => [ts]
  | .never, _ => []
  | .token p, ts =>
    match skipLines ts with
    | t :: rest => if p t.lexeme then [rest] else []
    | [] => []
  | .here p, ts =>
    match ts with
    | t :: rest => if p t.lexeme then [rest] else []
    | [] => []
  | .before p, ts =>
    match skipLines ts with
    | t :: _ => if p t.lexeme then [ts] else []
    | [] => []
  | .sameLine, ts =>
    match ts with
    | t :: _ => if t.lexeme == .newline then [] else [ts]
    | [] => [ts]
  | .seq a b, ts => (rests meaning a ts).flatMap (rests meaning b)
  | .either a b, ts => rests meaning a ts ++ rests meaning b ts
  | .orElse a b, ts =>
    match rests meaning a ts with
    | [] => rests meaning b ts
    | rs => rs
  | .sym s, ts => meaning s ts

/-- A sequence of phrases. -/
def all {σ : Type} : List (Phrase σ) → Phrase σ
  | [] => .empty
  | [p] => p
  | p :: ps => .seq p (all ps)

/-- The first of several phrases that has an outcome. -/
def first {σ : Type} : List (Phrase σ) → Phrase σ
  | [] => .never
  | [p] => p
  | p :: ps => .orElse p (first ps)

/-- The outcomes of all of several phrases. -/
def any {σ : Type} : List (Phrase σ) → Phrase σ
  | [] => .never
  | [p] => p
  | p :: ps => .either p (any ps)

/-- The phrase if it has an outcome, else nothing. -/
def optional {σ : Type} (p : Phrase σ) : Phrase σ := .orElse p .empty

end Phrase

/-- What can remain of the tokens after a symbol of a grammar, when symbols are opened at most
`depth` levels deep. -/
def symbolRests {σ : Type} (production : σ → Phrase σ) :
    Nat → σ → List Token → List (List Token)
  | 0, _, _ => []
  | depth + 1, s, ts =>
    Phrase.distinct ((production s).rests (symbolRests production depth) ts)

end Go
end RequiredArgs
