/-
# The grammar of statements, expressions and types

The grammar is a little wider than the language: declarations may lack parts that only a compiler
misses, and a list may end at a line end without its last comma. What a line end or a brace means
depends on the place of a construct:

| place | line end | brace after a type name |
| --- | --- | --- |
| `line`: a statement | ends the construct | opens a literal |
| `inner`: between brackets | white space | opens a literal |
| `header`: between `if`, `for` or `switch` and the block | white space | opens the block, if the name is bare |

In a header only an expression that the block may follow is in doubt: behind an assignment operator
that comes before a semicolon the place is `inner`.

A word is a keyword only where that keyword can stand, so `type` may name a parameter. The words of
predeclared values stand for those in every expression, so they are neither types nor labels there.
-/

import RequiredArgs.Go.Grammar.Basic

namespace RequiredArgs
namespace Go

/-- Where a construct stands. -/
structure Place where
  /-- A line end ends the construct. -/
  lineEnds : Bool
  /-- A brace after a bare type name opens a literal. -/
  literals : Bool
  /-- The type guard `.(type)` ends an expression. -/
  guarded : Bool := false
deriving DecidableEq, Repr

namespace Place

/-- A statement of its own. -/
def line : Place := { lineEnds := true, literals := true }

/-- Between brackets. -/
def inner : Place := { lineEnds := false, literals := true }

/-- In front of a block. -/
def header : Place := { lineEnds := false, literals := false }

/-- In front of the type guard of a `switch`. -/
def guard : Place := { lineEnds := false, literals := false, guarded := true }

/-- In front of the type guard of a `switch`, behind `:=`. -/
def innerGuard : Place := { lineEnds := false, literals := true, guarded := true }

end Place

/-- The symbols of the grammar. -/
inductive Symbol where
  | expr (c : Place) | operators (c : Place) | unary (c : Place) | primary (c : Place)
  | afterName (c : Place) | afterType (c : Place) | suffixes (c : Place)
  | exprs (c : Place) | moreExprs (c : Place)
  | elements | moreElements | element | elementValue
  | moreArguments | moreSpecial | index | colonPart
  | type (c : Place) | simpleType (c : Place) | result (c : Place)
  | typeElem (c : Place) | moreTypeElem (c : Place) | moreTypeArguments
  | params | moreParams | param
  | field | moreFields | method | moreMethods
  | typeParams | typeParam | moreTypeParams | moreWords (c : Place)
  | block | statements (inClause : Bool) | statement (inClause : Bool)
  | simple (c : Place) | simpleRest (c : Place)
  | ifStatement | elsePart | forClause
  | cases | typeCases | communications | moreTypes
  | constGroup | constSpec | varGroup | varSpec | typeGroup | typeSpec
deriving DecidableEq, Repr

namespace Symbol

open Phrase (all any first optional)

/-- The given operator or bracket. -/
def isPunct (text : String) (l : Lexeme) : Bool := l == .punct text

/-- One of the given operators. -/
def isPunctIn (texts : List String) : Lexeme → Bool
  | .punct t => texts.contains t
  | _ => false

/-- The given word. -/
def isThe (text : String) (l : Lexeme) : Bool := l == .word text

/-- Any word. -/
def isWord : Lexeme → Bool
  | .word _ => true
  | _ => false

/-- One of the given words. -/
def isWordIn (texts : List String) : Lexeme → Bool
  | .word t => texts.contains t
  | _ => false

/-- The words that start a type. -/
def typeKeywords : List String := ["func", "map", "chan", "struct", "interface"]

/-- The words of predeclared values. -/
def valueWords : List String := ["nil", "true", "false", "iota"]

/-- The words of the predeclared functions whose first argument is a type. -/
def makerWords : List String := ["new", "make"]

/-- A word where a name, a type or an expression may start. -/
def isName : Lexeme → Bool
  | .word t => !typeKeywords.contains t
  | _ => false

/-- A word that stands for a predeclared value or function in every expression. -/
def isPredeclared (l : Lexeme) : Bool := isWordIn valueWords l || isWordIn makerWords l

/-- The words that start a statement. -/
def statementKeywords : List String :=
  ["const", "type", "var", "return", "go", "defer", "if", "for", "switch", "select",
   "fallthrough", "break", "continue", "goto"]

/-- A string literal. -/
def isString : Lexeme → Bool
  | .str _ => true
  | _ => false

/-- A literal of a basic type. -/
def isBasicLiteral : Lexeme → Bool
  | .number | .rune | .str _ => true
  | _ => false

/-- What ends a statement. -/
def isTerminator (l : Lexeme) : Bool := l == .newline || isPunctIn [";", "\x00"] l

/-- What ends the statements of a block, or of a clause within a block. -/
def isCloser (inClause : Bool) (l : Lexeme) : Bool :=
  l == .punct "\x7d" || (inClause && isWordIn ["case", "default"] l)

/-- The operators between two operands; `<-` sends, or compares with a negated operand. -/
def binaryOperators : List String :=
  ["*", "/", "%", "<<", ">>", "&", "&^", "+", "-", "|", "^", "==", "!=", "<", "<=", ">", ">=",
   "&&", "||", "<-"]

/-- The operators in front of an operand. -/
def unaryOperators : List String := ["+", "-", "!", "^", "*", "&", "<-"]

/-- The operators of assignments and short declarations. -/
def assignOperators : List String :=
  ["=", ":=", "*=", "/=", "%=", "<<=", ">>=", "&=", "&^=", "+=", "-=", "|=", "^="]

/-- A bracket or an operator, after any line ends. -/
def punct (text : String) : Phrase Symbol := .token (isPunct text)

/-- A keyword, after any line ends. -/
def keyword (text : String) : Phrase Symbol := .token (isThe text)

/-- Any word, after any line ends. -/
def word : Phrase Symbol := .token isWord

/-- A token that goes on with a construct: on the same line, where a line end would end it. -/
def goOn (c : Place) (p : Lexeme → Bool) : Phrase Symbol :=
  if c.lineEnds then .here p else .token p

/-- A construct that must start on the same line, where a line end would end what is before it. -/
def adjacent (c : Place) (p : Phrase Symbol) : Phrase Symbol :=
  if c.lineEnds then .seq .sameLine p else p

/-- The end of a statement. -/
def terminator : Phrase Symbol := .here isTerminator

/-- `{ … }` with elements of a literal. -/
def literal (c : Place) : Phrase Symbol :=
  all [goOn c (isPunct "\x7b"), .sym .elements, punct "\x7d"]

/-- `( … )` with the arguments of a call. -/
def arguments (c : Place) : Phrase Symbol :=
  all [goOn c (isPunct "("),
    optional (all [.sym (.expr .inner), optional (punct "..."), .sym .moreArguments]), punct ")"]

/-- `( … )` with the arguments of `new` or `make`, the first of which is a type. -/
def specialArguments (c : Place) : Phrase Symbol :=
  all [goOn c (isPunct "("), optional (all [.sym (.type .inner), .sym .moreSpecial]), punct ")"]

/-- `( x )` after a type. -/
def conversion (c : Place) : Phrase Symbol :=
  all [goOn c (isPunct "("), .sym (.expr .inner), optional (punct ","), punct ")"]

/-- `[ T, … ]` after a name. -/
def typeArguments (c : Place) : Phrase Symbol :=
  all [goOn c (isPunct "["), .sym (.typeElem .inner), .sym .moreTypeArguments, punct "]"]

/-- A phrase that does not start with the arguments of a call. -/
def noCall (c : Place) (p : Phrase Symbol) : Phrase Symbol :=
  let other := all [.before fun l => !isPunct "(" l, p]
  if c.lineEnds then first [.seq .sameLine other, .empty] else other

/-- A list in round brackets whose entries each end like a statement, or one entry. -/
def grouped (group entry : Symbol) : Phrase Symbol :=
  first [all [punct "(", .sym group, punct ")"], .sym entry]

/-- The entries of such a list. -/
def entries (group entry : Symbol) : Phrase Symbol :=
  optional (all [.sym entry, terminator, .sym group])

/-- A statement that is not led by a keyword. -/
def unled (p : Phrase Symbol) : Phrase Symbol :=
  all [.before fun l => !isWordIn statementKeywords l, p]

/-- Slice, array, map and structure types, as they stand in front of a literal. -/
def literalType : Phrase Symbol :=
  let element := .sym (.type .inner)
  first [all [punct "[", punct "]", element],
    all [punct "[", .sym (.expr .inner), punct "]", element],
    all [keyword "map", punct "[", .sym (.type .inner), punct "]", element],
    all [keyword "struct", punct "\x7b", .sym .moreFields, punct "\x7d"]]

/-- The types that can only be converted to. -/
def plainType : Phrase Symbol :=
  all [.before fun l => isWordIn ["chan", "interface"] l || isPunct "~" l,
    .sym (.simpleType .inner)]

/-- What each symbol stands for. -/
def production : Symbol → Phrase Symbol
  | .expr c => all [.sym (.unary c), .sym (.operators c)]
  | .operators c =>
    optional (all [goOn c (isPunctIn binaryOperators), .sym (.unary c), .sym (.operators c)])
  | .unary c =>
    first [all [.token (isPunctIn unaryOperators), .sym (.unary c)], .sym (.primary c)]
  | .primary c =>
    first
      [all [.token (isWordIn makerWords),
        first [all [specialArguments c, .sym (.suffixes c)], noCall c (.sym (.suffixes c))]],
       all [.token (isWordIn valueWords), .sym (.suffixes c)],
       all [.token fun l => isName l && !isPredeclared l, .sym (.afterName c)],
       all [.token isBasicLiteral, .sym (.suffixes c)],
       all [punct "(", .sym (.expr .inner), punct ")", .sym (.suffixes c)],
       all [punct "(", .sym (.type .inner), punct ")", conversion c, .sym (.suffixes c)],
       all [keyword "func", .sym .params, .sym (.result .inner),
         first [.sym .block, conversion c], .sym (.suffixes c)],
       all [literalType, first [literal .inner, conversion c], .sym (.suffixes c)],
       all [punct "[", punct "...", punct "]", .sym (.type .inner), literal .inner,
         .sym (.suffixes c)],
       all [plainType, conversion c, .sym (.suffixes c)]]
  | .afterName c =>
    first
      [if c.literals then all [literal c, .sym (.suffixes c)] else .never,
       all [goOn c (isPunct "."), word, .sym (.afterType c)],
       all [typeArguments c, .sym (.afterType c)],
       .sym (.suffixes c)]
  | .afterType c =>
    let literalHere := all [literal c, .sym (.suffixes c)]
    let instanceHere := all [typeArguments c, .sym (.afterType c)]
    if c.literals then first [literalHere, instanceHere, .sym (.suffixes c)]
    else any [first [instanceHere, .sym (.suffixes c)], literalHere]
  | .suffixes c =>
    first
      [all [goOn c (isPunct "."), punct "(",
         if c.guarded then .before fun l => !isThe "type" l else .empty,
         .sym (.type .inner), punct ")", .sym (.suffixes c)],
       all [goOn c (isPunct "."), word, .sym (.suffixes c)],
       all [goOn c (isPunct "["), .sym .index, punct "]", .sym (.suffixes c)],
       all [typeArguments c, arguments c, .sym (.suffixes c)],
       all [arguments c, .sym (.suffixes c)],
       .empty]
  | .exprs c => all [.sym (.expr c), .sym (.moreExprs c)]
  | .moreExprs c =>
    optional (all [goOn c (isPunct ","), .sym (.expr c), .sym (.moreExprs c)])
  | .elements => first [all [.sym .element, .sym .moreElements], optional (punct ",")]
  | .moreElements =>
    first [all [punct ",", .sym .element, .sym .moreElements], optional (punct ",")]
  | .element =>
    all [.sym .elementValue, optional (all [punct ":", .sym .elementValue])]
  | .elementValue => first [literal .inner, .sym (.expr .inner)]
  | .moreArguments =>
    first [all [punct ",", .sym (.expr .inner), optional (punct "..."), .sym .moreArguments],
      optional (punct ",")]
  | .moreSpecial =>
    first [all [punct ",", .sym (.expr .inner), .sym .moreSpecial], optional (punct ",")]
  | .index =>
    first [all [.sym (.expr .inner), optional (.sym .colonPart)], .sym .colonPart]
  | .colonPart =>
    all [punct ":",
      optional (all [.sym (.expr .inner), optional (all [punct ":", .sym (.expr .inner)])])]
  | .type c => first [all [punct "(", .sym (.type .inner), punct ")"], .sym (.simpleType c)]
  | .simpleType c =>
    first
      [all [punct "*", .sym (.type c)],
       all [punct "~", .sym (.type c)],
       all [punct "[", punct "]", .sym (.type c)],
       all [punct "[", .sym (.expr .inner), punct "]", .sym (.type c)],
       all [keyword "map", punct "[", .sym (.type .inner), punct "]", .sym (.type c)],
       all [keyword "chan", optional (punct "<-"), .sym (.type c)],
       all [punct "<-", keyword "chan", .sym (.type c)],
       all [keyword "func", .sym .params, .sym (.result c)],
       all [keyword "struct", punct "\x7b", .sym .moreFields, punct "\x7d"],
       all [keyword "interface", punct "\x7b", .sym .moreMethods, punct "\x7d"],
       all [.token isName, optional (all [goOn c (isPunct "."), word]),
         optional (typeArguments c)]]
  | .result c => optional (adjacent c (first [.sym .params, .sym (.simpleType c)]))
  | .typeElem c => all [.sym (.type c), .sym (.moreTypeElem c)]
  | .moreTypeElem c =>
    optional (all [goOn c (isPunct "|"), .sym (.type c), .sym (.moreTypeElem c)])
  | .moreTypeArguments =>
    first [all [punct ",", .sym (.typeElem .inner), .sym .moreTypeArguments],
      optional (punct ",")]
  | .params =>
    all [punct "(", first [all [.sym .param, .sym .moreParams], optional (punct ",")], punct ")"]
  | .moreParams =>
    first [all [punct ",", .sym .param, .sym .moreParams], optional (punct ",")]
  | .param =>
    first
      [all [punct "...", .sym (.type .inner)],
       all [.token isName, punct "...", .sym (.type .inner)],
       all [.token isName, .sym (.type .inner), .before (isPunctIn [",", ")"])],
       .sym (.type .inner)]
  | .field =>
    all [any
      [all [word, .sym (.moreWords .line), .sym (.type .line)],
       all [optional (punct "*"), word, optional (all [.here (isPunct "."), word]),
         optional (typeArguments .line)]],
      optional (.here isString)]
  | .moreFields =>
    optional (all [.sym .field, optional (all [terminator, .sym .moreFields])])
  | .method =>
    any [all [.token isName, .sym .params, .sym (.result .line)], .sym (.typeElem .line)]
  | .moreMethods =>
    optional (all [.sym .method, optional (all [terminator, .sym .moreMethods])])
  | .typeParams => all [punct "[", .sym .typeParam, .sym .moreTypeParams, punct "]"]
  | .typeParam => all [word, .sym (.moreWords .inner), .sym (.typeElem .inner)]
  | .moreTypeParams =>
    first [all [punct ",", .sym .typeParam, .sym .moreTypeParams], optional (punct ",")]
  | .moreWords c => optional (all [goOn c (isPunct ","), word, .sym (.moreWords c)])
  | .block => all [punct "\x7b", .sym (.statements false), punct "\x7d"]
  | .statements k =>
    first
      [.before (isCloser k),
       all [.sym (.statement k),
         first [all [terminator, .sym (.statements k)], .before (isCloser k)]]]
  | .statement k =>
    first
      [all [keyword "const", grouped .constGroup .constSpec],
       all [keyword "var", grouped .varGroup .varSpec],
       all [keyword "type", grouped .typeGroup .typeSpec],
       all [keyword "return", optional (all [.sameLine, .sym (.exprs .line)])],
       all [.token (isWordIn ["go", "defer"]), .sym (.expr .line)],
       .sym .ifStatement,
       all [keyword "for",
         any
           [.sym .block,
            all [keyword "range", .sym (.expr .header), .sym .block],
            .sym .forClause,
            all [.before fun l => !isThe "range" l, .sym (.expr .header),
              any
                [.sym .block,
                 all [.sym (.simpleRest .inner), .sym .forClause],
                 all [.sym (.moreExprs .inner), .token (isPunctIn ["=", ":="]),
                   keyword "range", .sym (.expr .header), .sym .block]]]]],
       all [keyword "switch",
         let guarded :=
           all [.sym (.expr .guard),
             optional (all [.sym (.moreExprs .inner), punct ":=", .sym (.expr .innerGuard)]),
             punct ".", punct "(", keyword "type", punct ")", punct "\x7b", .sym .typeCases,
             punct "\x7d"]
         let clauses := all [punct "\x7b", .sym .cases, punct "\x7d"]
         first
           [guarded,
            all [.sym (.expr .header), .sym (.simpleRest .inner), punct ";", guarded],
            any
              [clauses,
               all [.sym (.expr .header),
                 any
                   [clauses,
                    all [.sym (.simpleRest .inner), punct ";",
                      optional (.sym (.expr .header)), clauses]]]]]],
       all [keyword "select", punct "\x7b", .sym .communications, punct "\x7d"],
       keyword "fallthrough",
       all [.token (isWordIn ["break", "continue"]), optional (.here isWord)],
       all [keyword "goto", word],
       .sym .block,
       punct ";",
       unled (all [.token fun l => isWord l && !isPredeclared l, .here (isPunct ":"),
         first [.sym (.statement k), .before (isCloser k)]]),
       unled (.sym (.simple .line))]
  | .simple c => all [.sym (.expr c), .sym (.simpleRest c)]
  | .simpleRest c =>
    first
      [goOn c (isPunctIn ["++", "--"]),
       all [goOn c (isPunctIn assignOperators), .sym (.exprs c)],
       all [goOn c (isPunct ","), .sym (.exprs c), goOn c (isPunctIn assignOperators),
         .sym (.exprs c)],
       .empty]
  | .ifStatement =>
    all [keyword "if", .sym (.expr .header),
      any
        [all [.sym .block, .sym .elsePart],
         all [.sym (.simpleRest .inner), punct ";", .sym (.expr .header), .sym .block,
           .sym .elsePart]]]
  | .elsePart =>
    optional (all [.here (isThe "else"), first [.sym .block, .sym .ifStatement]])
  | .forClause =>
    all [punct ";", optional (.sym (.expr .header)), punct ";",
      first [.sym .block, all [.sym (.simple .header), .sym .block]]]
  | .cases =>
    optional (all
      [first [all [keyword "case", .sym (.exprs .inner)], keyword "default"], punct ":",
       .sym (.statements true), .sym .cases])
  | .typeCases =>
    optional (all
      [first [all [keyword "case", .sym (.type .inner), .sym .moreTypes], keyword "default"],
       punct ":", .sym (.statements true), .sym .typeCases])
  | .moreTypes => optional (all [punct ",", .sym (.type .inner), .sym .moreTypes])
  | .communications =>
    optional (all
      [first
        [all [keyword "case", .sym (.expr .inner),
          optional (all [.sym (.moreExprs .inner), .token (isPunctIn ["=", ":="]),
            .sym (.expr .inner)])],
         keyword "default"],
       punct ":", .sym (.statements true), .sym .communications])
  | .constGroup => entries .constGroup .constSpec
  | .constSpec =>
    all [word, .sym (.moreWords .line),
      first
        [all [goOn .line (isPunct "="), .sym (.exprs .line)],
         all [.sameLine, .sym (.type .line), goOn .line (isPunct "="), .sym (.exprs .line)],
         .empty]]
  | .varGroup => entries .varGroup .varSpec
  | .varSpec =>
    all [word, .sym (.moreWords .inner),
      first
        [all [punct "=", .sym (.exprs .line)],
         all [.sym (.type .line),
           optional (all [goOn .line (isPunct "="), .sym (.exprs .line)])]]]
  | .typeGroup => entries .typeGroup .typeSpec
  | .typeSpec =>
    all [word,
      any
        [all [punct "=", .sym (.type .line)],
         all [.sym .typeParams, optional (punct "="), .sym (.type .line)],
         .sym (.type .line)]]

/-- What can remain of the tokens after a symbol. -/
def rests (s : Symbol) (ts : List Token) : List (List Token) :=
  symbolRests production (16 * ts.length + 64) s ts

end Symbol
end Go
end RequiredArgs
