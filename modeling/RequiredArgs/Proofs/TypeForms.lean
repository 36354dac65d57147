/-
# Forms of type that are not looked into

The grammar passes over the types below, so they are forms that a spelling can have at its core. Names
stand for arbitrary words.

| form | text |
| --- | --- |
| `Form.map` | `map[K]V` |
| `Form.channel` | `chan T` |
| `Form.function` | `func()` |
| `Form.interface`, `Form.struct` | the keyword and two braces |
| `Form.generic` | `T[A]` |

`Length.decimal` is the length of an array in decimal digits.

Each symbol of the grammar has one lemma for each kind of token that it meets here, and the lemma
opens that symbol only: `symbolRests_type_word` rests on `symbolRests_simpleType_word`, and so on.
-/

import RequiredArgs.Proofs.TypeSpelling

namespace RequiredArgs
namespace Go

open Phrase (skipLines)
open Token (cut Scans exists_of_map_lexeme)
open Lexeme (isWordText)

/-- No keyword that starts a type is the text of a name. -/
theorem Word.text_not_mem (w : Word) : w.text ∉ Symbol.typeKeywords := by
  have hkeyword := w.keywordType?_text
  unfold keywordType? at hkeyword
  split at hkeyword <;> simp_all [Symbol.typeKeywords]

/-- The text of a name is a name for the grammar. -/
theorem Word.isName_text (w : Word) : Symbol.isName (.word w.text) = true := by
  simpa [Symbol.isName] using w.text_not_mem

/-! ### The grammar at single tokens -/

section Grammar

variable {meaning : Symbol → List Token → List (List Token)} {ts us more : List Token}
  {d o o₁ o₂ o₃ o₄ : Nat} {p q w k : String} {c : Place}

/-- A word is the keyword `k` only if it is written so. -/
@[simp] theorem isThe_word : Symbol.isThe k (.word w) = (w == k) := by
  simp [Symbol.isThe]

/-- No operator is a keyword. -/
@[simp] theorem isThe_punct : Symbol.isThe k (.punct p) = false := by
  simp [Symbol.isThe]

/-- No operator is a name. -/
@[simp] theorem isName_punct : Symbol.isName (.punct p) = false := rfl

/-- The grammar and the readers ask for an operator alike. -/
@[simp] theorem rests_punct (p : String) (ts : List Token) :
    (Symbol.punct p).rests meaning ts = (expect? p ts).toList := by
  rw [Symbol.punct, Phrase.rests, expect?]
  cases skipLines ts with
  | nil => rfl
  | cons t rest => cases h : (t.lexeme == .punct p) <;> simp [Symbol.isPunct, h]

/-- Within brackets a line end may stand in front of what goes on. -/
theorem goOn_inner (p : String) : Symbol.goOn .inner (Symbol.isPunct p) = Symbol.punct p := rfl

/-- No operator is read where a word comes next. -/
theorem expect?_of_word (h : skipLines ts = ⟨.word w, o⟩ :: us) : expect? p ts = none := by
  simp [expect?, h]

/-- The operator that comes next, behind line ends, is read where it is expected and nowhere else.
-/
theorem expect?_of_punct (h : skipLines ts = ⟨.punct q, o⟩ :: us) :
    expect? p ts = if q = p then some us else none := by
  simp [expect?, h]

/-- A name is a whole type where neither a point nor an opening bracket follows. -/
theorem symbolRests_simpleType_word (w : Word) (h : skipLines ts = ⟨.word w.text, o⟩ :: us)
    (hpoint : expect? "." us = none) (hopen : expect? "[" us = none) :
    symbolRests Symbol.production (d + 1) (.simpleType .inner) ts = [us] := by
  have hne := w.text_not_mem
  simp only [Symbol.typeKeywords, List.mem_cons, not_or] at hne
  rw [symbolRests]
  simp [Symbol.production, Phrase.first, Phrase.all, Phrase.optional, Phrase.rests,
    Phrase.distinct, Symbol.keyword, Symbol.typeArguments, goOn_inner, h, expect?_of_word h,
    w.isName_text, hne, hpoint, hopen]

/-- A name is a whole type also where parentheses around the type are allowed. -/
theorem symbolRests_type_word (w : Word) (h : skipLines ts = ⟨.word w.text, o⟩ :: us)
    (hpoint : expect? "." us = none) (hopen : expect? "[" us = none) :
    symbolRests Symbol.production (d + 2) (.type .inner) ts = [us] := by
  have hsimple := symbolRests_simpleType_word (d := d) w h hpoint hopen
  rw [symbolRests]
  simp [Symbol.production, Phrase.first, Phrase.all, Phrase.rests, Phrase.distinct,
    expect?_of_word h, hsimple]

/-- A name in front of what ends a parameter is a type. -/
theorem symbolRests_type_closed (w : Word) (hmore : Closed more) :
    symbolRests Symbol.production (d + 2) (.type .inner) (⟨.word w.text, o⟩ :: more) = [more] :=
  symbolRests_type_word w skipLines_word (hmore.expect? (by decide)) (hmore.expect? (by decide))

/-- A name in front of a closing bracket is a type. -/
theorem symbolRests_type_bracket (w : Word) :
    symbolRests Symbol.production (d + 2) (.type .inner)
      (⟨.word w.text, o⟩ :: ⟨.punct "]", o₁⟩ :: more) = [⟨.punct "]", o₁⟩ :: more] :=
  symbolRests_type_word w skipLines_word (by simp) (by simp)

/-- No type starts with an operator outside of `typeMarks`, so the grammar finds none there. -/
theorem symbolRests_simpleType_punct (h : skipLines ts = ⟨.punct p, o⟩ :: us)
    (hp : p ∉ typeMarks) : symbolRests Symbol.production (d + 1) (.simpleType c) ts = [] := by
  simp only [typeMarks, List.mem_cons, not_or] at hp
  rw [symbolRests]
  simp [Symbol.production, Phrase.first, Phrase.all, Phrase.rests, Phrase.distinct,
    Symbol.keyword, h, expect?_of_punct h, hp]

/-- No type starts with an operator outside of `typeMarks`, not even one in parentheses. -/
theorem symbolRests_type_punct (h : skipLines ts = ⟨.punct p, o⟩ :: us) (hp : p ∉ typeMarks) :
    symbolRests Symbol.production (d + 2) (.type c) ts = [] := by
  have hsimple := symbolRests_simpleType_punct (d := d) (c := c) h hp
  simp only [typeMarks, List.mem_cons, not_or] at hp
  rw [symbolRests]
  simp [Symbol.production, Phrase.first, Phrase.all, Phrase.rests, Phrase.distinct,
    expect?_of_punct h, hp, hsimple]

/-! ### Keywords that start a type -/

/-- `map[K]V` is one type, and the grammar finds no other way to read it. -/
theorem symbolRests_simpleType_map (k v : Word)
    (h : skipLines ts = ⟨.word "map", o⟩ :: ⟨.punct "[", o₁⟩ :: ⟨.word k.text, o₂⟩ ::
      ⟨.punct "]", o₃⟩ :: ⟨.word v.text, o₄⟩ :: more) (hmore : Closed more) :
    symbolRests Symbol.production (d + 3) (.simpleType .inner) ts = [more] := by
  rw [symbolRests]
  simp [Symbol.production, Phrase.first, Phrase.all, Phrase.rests, Phrase.distinct,
    Symbol.keyword, h, expect?_of_word h, symbolRests_type_bracket k,
    symbolRests_type_closed v hmore]

/-- `chan T` is one type, and the grammar finds no other way to read it. -/
theorem symbolRests_simpleType_chan (t : Word)
    (h : skipLines ts = ⟨.word "chan", o⟩ :: ⟨.word t.text, o₁⟩ :: more) (hmore : Closed more) :
    symbolRests Symbol.production (d + 3) (.simpleType .inner) ts = [more] := by
  rw [symbolRests]
  simp [Symbol.production, Phrase.first, Phrase.all, Phrase.optional, Phrase.rests,
    Phrase.distinct, Symbol.keyword, h, expect?_of_word h, symbolRests_type_closed t hmore]

/-- `()` is a list without parameters. -/
theorem symbolRests_params_empty : symbolRests Symbol.production (d + 4) .params
    (⟨.punct "(", o⟩ :: ⟨.punct ")", o₁⟩ :: more) = [more] := by
  have htype : symbolRests Symbol.production (d + 2) (.type .inner)
      (⟨.punct ")", o₁⟩ :: more) = [] :=
    symbolRests_type_punct skipLines_punct (by decide)
  have hparam : symbolRests Symbol.production (d + 3) .param (⟨.punct ")", o₁⟩ :: more) = [] := by
    rw [symbolRests]
    simp [Symbol.production, Phrase.first, Phrase.all, Phrase.rests, Phrase.distinct, htype]
  rw [symbolRests]
  simp [Symbol.production, Phrase.first, Phrase.all, Phrase.optional, Phrase.rests,
    Phrase.distinct, hparam]

/-- What ends a parameter is no result. -/
theorem symbolRests_result_closed (hmore : Closed more) :
    symbolRests Symbol.production (d + 2) (.result .inner) more = [more] := by
  have hinner : Place.inner.lineEnds = false := rfl
  have hparams : symbolRests Symbol.production (d + 1) .params more = [] := by
    rw [symbolRests]
    simp [Symbol.production, Phrase.first, Phrase.all, Phrase.rests, Phrase.distinct,
      hmore.expect?]
  have hsimple : symbolRests Symbol.production (d + 1) (.simpleType .inner) more = [] := by
    obtain ⟨o, rest, hskip | hskip⟩ := hmore <;>
      exact symbolRests_simpleType_punct hskip (by decide)
  rw [symbolRests]
  simp [Symbol.production, Phrase.first, Phrase.optional, Phrase.rests, Phrase.distinct,
    Symbol.adjacent, hinner, hparams, hsimple]

/-- `func()` is one type: what closes a parameter behind it is no result of the function. -/
theorem symbolRests_simpleType_func
    (h : skipLines ts = ⟨.word "func", o⟩ :: ⟨.punct "(", o₁⟩ :: ⟨.punct ")", o₂⟩ :: more)
    (hmore : Closed more) :
    symbolRests Symbol.production (d + 5) (.simpleType .inner) ts = [more] := by
  rw [symbolRests]
  simp [Symbol.production, Phrase.first, Phrase.all, Phrase.rests, Phrase.distinct,
    Symbol.keyword, h, expect?_of_word h, symbolRests_params_empty,
    symbolRests_result_closed hmore]

/-- The methods of an interface end at the closing brace. -/
theorem symbolRests_moreMethods_close : symbolRests Symbol.production (d + 5) .moreMethods
    (⟨.punct "\x7d", o⟩ :: more) = [⟨.punct "\x7d", o⟩ :: more] := by
  have htype : symbolRests Symbol.production (d + 2) (.type .line)
      (⟨.punct "\x7d", o⟩ :: more) = [] :=
    symbolRests_type_punct skipLines_punct (by decide)
  have helem : symbolRests Symbol.production (d + 3) (.typeElem .line)
      (⟨.punct "\x7d", o⟩ :: more) = [] := by
    rw [symbolRests]
    simp [Symbol.production, Phrase.all, Phrase.rests, Phrase.distinct, htype]
  have hmethod : symbolRests Symbol.production (d + 4) .method
      (⟨.punct "\x7d", o⟩ :: more) = [] := by
    rw [symbolRests]
    simp [Symbol.production, Phrase.any, Phrase.all, Phrase.rests, Phrase.distinct, helem]
  rw [symbolRests]
  simp [Symbol.production, Phrase.all, Phrase.optional, Phrase.rests, Phrase.distinct, hmethod]

/-- An interface without methods is one type. -/
theorem symbolRests_simpleType_interface (h : skipLines ts =
      ⟨.word "interface", o⟩ :: ⟨.punct "\x7b", o₁⟩ :: ⟨.punct "\x7d", o₂⟩ :: more) :
    symbolRests Symbol.production (d + 6) (.simpleType .inner) ts = [more] := by
  rw [symbolRests]
  simp [Symbol.production, Phrase.first, Phrase.all, Phrase.rests, Phrase.distinct,
    Symbol.keyword, h, expect?_of_word h, symbolRests_moreMethods_close]

/-- The fields of a structure end at the closing brace. -/
theorem symbolRests_moreFields_close : symbolRests Symbol.production (d + 2) .moreFields
    (⟨.punct "\x7d", o⟩ :: more) = [⟨.punct "\x7d", o⟩ :: more] := by
  have hfield : symbolRests Symbol.production (d + 1) .field (⟨.punct "\x7d", o⟩ :: more) = [] := by
    rw [symbolRests]
    simp [Symbol.production, Phrase.any, Phrase.all, Phrase.optional, Phrase.rests,
      Phrase.distinct, Symbol.word, Symbol.isWord]
  rw [symbolRests]
  simp [Symbol.production, Phrase.all, Phrase.optional, Phrase.rests, Phrase.distinct, hfield]

/-- A structure without fields is one type. -/
theorem symbolRests_simpleType_struct (h : skipLines ts =
      ⟨.word "struct", o⟩ :: ⟨.punct "\x7b", o₁⟩ :: ⟨.punct "\x7d", o₂⟩ :: more) :
    symbolRests Symbol.production (d + 3) (.simpleType .inner) ts = [more] := by
  rw [symbolRests]
  simp [Symbol.production, Phrase.first, Phrase.all, Phrase.rests, Phrase.distinct,
    Symbol.keyword, h, expect?_of_word h, symbolRests_moreFields_close]

/-- A type that starts with a keyword ends where the grammar says, and the keyword alone says which
type it is. -/
theorem typeExpr?_of_keyword {fuel : Nat} {t : TypeExpr} (h : skipLines ts = ⟨.word w, o⟩ :: us)
    (hw : keywordType? w = some t) : typeExpr? (fuel + 1) c ts =
      (Symbol.rests (.simpleType c) ts).head?.map fun r => (t, r) := by
  rw [typeExpr?, h]
  simp only [hw]

/-! ### Type arguments -/

/-- A name is a type argument in front of the closing bracket. -/
theorem symbolRests_typeElem_word (a : Word) :
    symbolRests Symbol.production (d + 3) (.typeElem .inner)
      (⟨.word a.text, o⟩ :: ⟨.punct "]", o₁⟩ :: more) = [⟨.punct "]", o₁⟩ :: more] := by
  have hmore : symbolRests Symbol.production (d + 2) (.moreTypeElem .inner)
      (⟨.punct "]", o₁⟩ :: more) = [⟨.punct "]", o₁⟩ :: more] := by
    rw [symbolRests]
    simp [Symbol.production, Phrase.all, Phrase.optional, Phrase.rests, Phrase.distinct, goOn_inner]
  rw [symbolRests]
  simp [Symbol.production, Phrase.all, Phrase.rests, Phrase.distinct, symbolRests_type_bracket a,
    hmore]

/-- `[A]` behind a type makes it generic. -/
theorem genericSuffix_word (a : Word) (base : TypeExpr) :
    genericSuffix .inner base (⟨.punct "[", o⟩ :: ⟨.word a.text, o₁⟩ :: ⟨.punct "]", o₂⟩ :: more) =
      (.generic base, more) := by
  have hmore : ∀ d, symbolRests Symbol.production (d + 1) .moreTypeArguments
      (⟨.punct "]", o₂⟩ :: more) = [⟨.punct "]", o₂⟩ :: more] := by
    intro d
    rw [symbolRests]
    simp [Symbol.production, Phrase.first, Phrase.all, Phrase.optional, Phrase.rests,
      Phrase.distinct]
  rw [genericSuffix]
  simp [Symbol.typeArguments, Phrase.all, Phrase.rests, goOn_inner, Symbol.rests,
    symbolRests_typeElem_word, hmore]

/-- `T[A]` is read as a generic type over the name `T`. -/
theorem namedType_generic (a : Word) :
    namedType .inner w (⟨.punct "[", o⟩ :: ⟨.word a.text, o₁⟩ :: ⟨.punct "]", o₂⟩ :: more) =
      (.generic (.name w), more) := by
  have hsuffix : genericSuffix .inner (.name w) (⟨.punct "[", o⟩ :: ⟨.word a.text, o₁⟩ ::
      ⟨.punct "]", o₂⟩ :: more) = (.generic (.name w), more) := genericSuffix_word a (.name w)
  rw [← hsuffix]
  simp [namedType, Place.inner]

/-! ### Lengths -/

/-- Nothing is applied to an operand in front of a closing bracket. -/
theorem symbolRests_suffixes_close : symbolRests Symbol.production (d + 1) (.suffixes .inner)
    (⟨.punct "]", o⟩ :: more) = [⟨.punct "]", o⟩ :: more] := by
  rw [symbolRests]
  simp [Symbol.production, Phrase.first, Phrase.all, Phrase.rests, Phrase.distinct, goOn_inner,
    Symbol.typeArguments, Symbol.arguments]

/-- No operator goes on with an expression in front of a closing bracket. -/
theorem symbolRests_operators_close : symbolRests Symbol.production (d + 1) (.operators .inner)
    (⟨.punct "]", o⟩ :: more) = [⟨.punct "]", o⟩ :: more] := by
  have hinner : Place.inner.lineEnds = false := rfl
  have hnot : Symbol.isPunctIn Symbol.binaryOperators (.punct "]") = false := by decide
  rw [symbolRests]
  simp [Symbol.production, Phrase.all, Phrase.optional, Phrase.rests, Phrase.distinct,
    Symbol.goOn, hinner, hnot]

/-- A number is a whole expression in front of the closing bracket. -/
theorem symbolRests_expr_number : symbolRests Symbol.production (d + 4) (.expr .inner)
    (⟨.number, o⟩ :: ⟨.punct "]", o₁⟩ :: more) = [⟨.punct "]", o₁⟩ :: more] := by
  have hskip : skipLines (⟨.number, o⟩ :: ⟨.punct "]", o₁⟩ :: more) =
      ⟨.number, o⟩ :: ⟨.punct "]", o₁⟩ :: more := rfl
  have hprimary : symbolRests Symbol.production (d + 2) (.primary .inner)
      (⟨.number, o⟩ :: ⟨.punct "]", o₁⟩ :: more) = [⟨.punct "]", o₁⟩ :: more] := by
    rw [symbolRests]
    simp [Symbol.production, Phrase.first, Phrase.all, Phrase.rests, Phrase.distinct, hskip,
      Symbol.isWordIn, Symbol.isName, Symbol.isBasicLiteral, symbolRests_suffixes_close]
  have hunary : symbolRests Symbol.production (d + 3) (.unary .inner)
      (⟨.number, o⟩ :: ⟨.punct "]", o₁⟩ :: more) = [⟨.punct "]", o₁⟩ :: more] := by
    rw [symbolRests]
    simp [Symbol.production, Phrase.first, Phrase.all, Phrase.rests, Phrase.distinct, hskip,
      Symbol.isPunctIn, hprimary]
  rw [symbolRests]
  simp [Symbol.production, Phrase.all, Phrase.rests, Phrase.distinct, hunary,
    symbolRests_operators_close]

end Grammar

namespace Lexeme

/-- A run of digits ends at a character that is no digit. -/
theorem digitRun_append {p : Char → Bool} {ds : List Char} (hds : ∀ d ∈ ds, p d = true)
    (hmark : p '_' = false) {c : Char} (hc : p c = false) (hc' : c ≠ '_') (rest : List Char) :
    digitRun p (ds ++ c :: rest) = ds.length := by
  induction ds with
  | nil => exact digitRun_of_not hc rest
  | cons d ds ih =>
    obtain ⟨hd, hds⟩ := List.forall_mem_cons.1 hds
    rw [List.cons_append, digitRun, ih hds, hd]
    · simp [Nat.add_comm]
    · rintro e more htail
      cases ds with
      | nil => exact hc' (List.cons.inj htail).1
      | cons e ds =>
        obtain ⟨rfl, -⟩ := List.cons.inj htail
        exact Bool.false_ne_true (hmark.symm.trans (hds _ List.mem_cons_self))

/-- A number that does not start with `0` is as long as its digits, up to a closing bracket. -/
theorem numberLength_append {d : Char} {ds : List Char} (hd : d ≠ '0')
    (hds : ∀ c ∈ d :: ds, c.isDigit = true) (rest : List Char) :
    numberLength (d :: ds ++ ']' :: rest) = ds.length + 1 := by
  have hrun : digitRun Char.isDigit (d :: ds ++ ']' :: rest) = ds.length + 1 :=
    digitRun_append hds (by decide) (by decide) (by decide) rest
  have hinteger : integerLength (d :: ds ++ ']' :: rest) = ds.length + 1 := by
    rw [← hrun, integerLength]
    · exact fun c more htail => hd (List.cons.inj htail).1
    · exact fun more htail => hd (List.cons.inj htail).1
  have hdrop : (d :: ds ++ ']' :: rest).drop (ds.length + 1) = ']' :: rest := by simp
  have hexponent : exponentLength ['e', 'E'] (']' :: rest) = 0 := by
    cases rest <;> simp [exponentLength]
  have hdecimal : decimalFloatLength (d :: ds ++ ']' :: rest) = 0 := by
    simp only [decimalFloatLength, hrun, hdrop]
    simp [hexponent]
  have hhex : hexFloatLength (d :: ds ++ ']' :: rest) = 0 := by
    unfold hexFloatLength
    split <;> simp_all
  have hnext : (d :: ds ++ ']' :: rest)[ds.length + 1]? = some ']' := by simp
  simp only [numberLength, hrun, hinteger, hdecimal, hhex, hnext, List.map_cons, List.map_nil]
  simp

end Lexeme

/-- Digits that do not start with `0` are cut off as one number in front of a closing bracket. -/
theorem Token.cut_digits {d : Char} {ds : List Char} (hd : d ≠ '0')
    (hds : ∀ c ∈ d :: ds, c.isDigit = true) (rest : List Char) (offset : Nat) :
    cut offset (d :: ds ++ ']' :: rest) =
      ⟨.number, offset⟩ :: cut (offset + byteSize (d :: ds)) (']' :: rest) := by
  have hdigit : d.isDigit = true := hds d List.mem_cons_self
  have hascii : d.toNat < 128 :=
    Printed.toNat_lt_of_isAlphanum (by simp [Char.isAlphanum, hdigit])
  -- a digit starts no other lexeme
  obtain ⟨hspace, hstart, hother⟩ := Printed.forall_ascii
    (P := fun c => c.isDigit = true → Lexeme.isSpace c = false ∧ Unicode.isIdentStart c = false ∧
      c ≠ '\n' ∧ c ≠ '"' ∧ c ≠ '\x60' ∧ c ≠ '\'' ∧ c ≠ '/') (by decide +kernel) hascii hdigit
  have hlength := Lexeme.numberLength_append hd hds rest
  rw [List.cons_append] at hlength
  refine cut_lexeme hspace (by simp) ?_ offset
  simp [Lexeme.next, hstart, hother, hlength]

/-- A length in decimal digits. -/
def Length.decimal (d : Char) (ds : List Char) (hd : d ≠ '0')
    (hds : ∀ c ∈ d :: ds, c.isDigit = true) : Length where
  chars := d :: ds
  lexemes := [.number]
  scans rest := .of_cut (Token.cut_digits hd hds rest)
  notSlice ts o more hts := by
    obtain ⟨o', us, rfl, hus⟩ := exists_of_map_lexeme hts
    rfl
  isExpr ts o more hts := by
    obtain ⟨o', us, rfl, hus⟩ := exists_of_map_lexeme hts
    obtain rfl := List.map_eq_nil_iff.1 hus
    simp [Symbol.rests, symbolRests_expr_number]

/-! ### Forms -/

/-- A keyword is read as the type that it names, if the grammar passes over what belongs to it. -/
theorem ReadAs.of_keyword {k : String} {t : TypeExpr} {ls : List Lexeme}
    (hk : keywordType? k = some t)
    (h : ∀ ts us more o, skipLines ts = ⟨.word k, o⟩ :: (us ++ more) → us.map (·.lexeme) = ls →
      Closed more → Symbol.rests (.simpleType .inner) ts = [more]) :
    ReadAs t (.word k :: ls) := by
  intro lines ts more hlines hts hmore
  obtain ⟨o, us, rfl, hus⟩ := exists_of_map_lexeme hts
  have hskip : skipLines (lines ++ (⟨.word k, o⟩ :: us ++ more)) = ⟨.word k, o⟩ :: (us ++ more) :=
    skipLines_append hlines _
  rw [innerType?, typeExpr?_of_keyword hskip hk, h _ us more o hskip hus hmore]
  rfl

namespace Form

/-- `map[K]V` -/
def map (k v : Word) : Form where
  chars := "map".toList ++ '[' :: (k.chars ++ ']' :: v.chars)
  lexemes := [.word "map", .punct "[", .word k.text, .punct "]", .word v.text]
  type := .map
  isOther := rfl
  scans rest hrest := by
    have hvalue := (Scans.bracket (c := ']') (p := "]") (by decide)).append (v.scans hrest.wordEnds)
    have hkey := (Scans.bracket (c := '[') (p := "[") (by decide)).append
      ((k.scans (.cons (by decide) _)).append hvalue)
    exact .keyword (by decide) (by decide) hkey
  readAs := by
    refine .of_keyword rfl fun ts us more o hskip hus hmore => ?_
    obtain ⟨o₁, us₁, rfl, h₁⟩ := exists_of_map_lexeme hus
    obtain ⟨o₂, us₂, rfl, h₂⟩ := exists_of_map_lexeme h₁
    obtain ⟨o₃, us₃, rfl, h₃⟩ := exists_of_map_lexeme h₂
    obtain ⟨o₄, us₄, rfl, h₄⟩ := exists_of_map_lexeme h₃
    obtain rfl := List.map_eq_nil_iff.1 h₄
    exact symbolRests_simpleType_map k v hskip hmore

/-- `chan T` -/
def channel (t : Word) : Form where
  chars := "chan".toList ++ ' ' :: t.chars
  lexemes := [.word "chan", .word t.text]
  type := .channel
  isOther := rfl
  scans rest hrest :=
    .keyword (by decide) (by decide) (Scans.blank.append (t.scans hrest.wordEnds))
  readAs := by
    refine .of_keyword rfl fun ts us more o hskip hus hmore => ?_
    obtain ⟨o₁, us₁, rfl, h₁⟩ := exists_of_map_lexeme hus
    obtain rfl := List.map_eq_nil_iff.1 h₁
    exact symbolRests_simpleType_chan t hskip hmore

/-- A keyword with nothing between the brackets behind it. -/
def empty (w : String) (type : TypeExpr) (opening closing : Char × String)
    (isOther : type.isOther = true) (isWord : isWordText w.toList = true)
    (isKeyword : keywordType? w = some type)
    (areBrackets : opening ∈ Token.brackets ∧ closing ∈ Token.brackets)
    (rests : ∀ ts o o₁ o₂ more, skipLines ts = ⟨.word w, o⟩ :: ⟨.punct opening.2, o₁⟩ ::
      ⟨.punct closing.2, o₂⟩ :: more → Closed more →
        Symbol.rests (.simpleType .inner) ts = [more]) : Form where
  chars := w.toList ++ [opening.1, closing.1]
  lexemes := [.word w, .punct opening.2, .punct closing.2]
  type
  isOther
  scans rest _ := by
    have hends : ∀ x ∈ Token.brackets, Unicode.isIdentContinue x.1 = false := by decide
    exact .keyword isWord (hends _ areBrackets.1)
      ((Scans.bracket areBrackets.1).append (.bracket areBrackets.2))
  readAs := by
    refine .of_keyword isKeyword fun ts us more o hskip hus hmore => ?_
    obtain ⟨o₁, us₁, rfl, h₁⟩ := exists_of_map_lexeme hus
    obtain ⟨o₂, us₂, rfl, h₂⟩ := exists_of_map_lexeme h₁
    obtain rfl := List.map_eq_nil_iff.1 h₂
    exact rests ts o o₁ o₂ more hskip hmore

/-- `func()` -/
def function : Form :=
  empty "func" .function ('(', "(") (')', ")") rfl (by decide) rfl (by decide)
    fun _ _ _ _ _ h hmore => symbolRests_simpleType_func h hmore

/-- An interface without methods. -/
def interface : Form :=
  empty "interface" .interface ('\x7b', "\x7b") ('\x7d', "\x7d") rfl (by decide) rfl (by decide)
    fun _ _ _ _ _ h _ => symbolRests_simpleType_interface h

/-- A structure without fields. -/
def struct : Form :=
  empty "struct" .struct ('\x7b', "\x7b") ('\x7d', "\x7d") rfl (by decide) rfl (by decide)
    fun _ _ _ _ _ h _ => symbolRests_simpleType_struct h

/-- `T[A]` -/
def generic (t a : Word) : Form where
  chars := t.chars ++ '[' :: (a.chars ++ [']'])
  lexemes := [.word t.text, .punct "[", .word a.text, .punct "]"]
  type := .generic (.name t.text)
  isOther := rfl
  scans rest _ :=
    (t.scans (.cons (by decide) _)).append ((Scans.bracket (by decide)).append
      ((a.scans (.cons (by decide) _)).append (.bracket (by decide))))
  readAs := by
    intro lines ts more hlines hts hmore
    obtain ⟨o, us, rfl, h⟩ := exists_of_map_lexeme hts
    obtain ⟨o₁, us₁, rfl, h₁⟩ := exists_of_map_lexeme h
    obtain ⟨o₂, us₂, rfl, h₂⟩ := exists_of_map_lexeme h₁
    obtain ⟨o₃, us₃, rfl, h₃⟩ := exists_of_map_lexeme h₂
    obtain rfl := List.map_eq_nil_iff.1 h₃
    rw [innerType?, typeExpr?_of_word (skipLines_append hlines _) t.keywordType?_text]
    exact congrArg some (namedType_generic a)

end Form

end Go
end RequiredArgs
