/-
# Spellings of types

One type can be written in many ways. `Spelling` is the syntax of a parameter's type as it stands in a
source: pointers, slices, arrays and parentheses around a name or around another form of type, with
blanks, line ends and comments (`Filler`) behind each mark and in front of a closing parenthesis.

| spelling | text |
| --- | --- |
| pointer | `*T`, `* /* c */ T` |
| slice, array | `[]T`, `[4]T`, `[4] /* c */ T` |
| parentheses | `(T)`, `( /* c */ T /* c */ )` |

`Spelling.expr` is the syntax tree of a spelling, which has no comments. The text of a spelling is cut
into lexemes, of which comments are none (`Spelling.scans`), and tokens with these lexemes are read as
that tree wherever the type of a parameter can stand (`Spelling.readAs`).

Maps, channels, functions and the like are not looked into. For them a spelling takes every text that
is read as such a type (`Form`), and for the length of an array every text that is read as an
expression (`Length`).
-/

import RequiredArgs.Proofs.DeclarationReading

namespace RequiredArgs
namespace Go

open Phrase (skipLines)
open Token (cut cut_star cut_point Scans exists_of_map_lexeme)
open Lexeme (WordEnds isWordText)

/-! ### Between two tokens -/

/-- What can stand between two tokens: a blank, a line end, a comment between `/*` and `*/`, or one
from `//` to the end of its line. -/
inductive Filler where
  | blank (c : Char) (isSpace : Lexeme.isSpace c = true)
  | lineEnd
  | block (body : List Char) (closed : ¬['*', '/'] <:+: body)
  | line (body : List Char) (single : '\n' ∉ body)

namespace Filler

def chars : Filler → List Char
  | blank c _ => [c]
  | lineEnd => ['\n']
  | block body _ => '/' :: '*' :: (body ++ ['*', '/'])
  | line body _ => '/' :: '/' :: (body ++ ['\n'])

/-- Only line ends are left of fillers. -/
def lexemes : Filler → List Lexeme
  | blank _ _ | block _ _ => []
  | lineEnd | line _ _ => [.newline]

end Filler

/-- The text of fillers one behind the other. -/
def gapChars (gap : List Filler) : List Char := gap.flatMap Filler.chars

def gapLexemes (gap : List Filler) : List Lexeme := gap.flatMap Filler.lexemes

/-- Of fillers one behind the other only line ends are left. -/
theorem gapLexemes_eq_newline (gap : List Filler) : ∀ l ∈ gapLexemes gap, l = .newline := by
  intro l hl
  obtain ⟨f, -, hl⟩ := List.mem_flatMap.1 hl
  cases f with
  | blank | block => cases hl
  | lineEnd | line => exact List.mem_singleton.1 hl

/-- The first `*/` is the one behind the body. -/
theorem Lexeme.commentLength?_append {body : List Char} (closed : ¬['*', '/'] <:+: body)
    (rest : List Char) : commentLength? (body ++ '*' :: '/' :: rest) = some (body.length + 2) := by
  induction body with
  | nil => rfl
  | cons c cs ih =>
    have hcs : ¬['*', '/'] <:+: cs := fun h => closed (h.trans (List.suffix_cons c cs).isInfix)
    rw [List.cons_append, commentLength?, ih hcs]
    · rfl
    · rintro more rfl htail
      cases cs with
      | nil => cases htail
      | cons d ds =>
        obtain ⟨rfl, -⟩ := List.cons.inj htail
        exact closed (List.prefix_append ['*', '/'] ds).isInfix

namespace Token

/-- A comment is cut off without a trace. -/
theorem Scans.comment {c : Char} {more rest : List Char} (hc : Lexeme.isSpace c = false)
    (hnext : Lexeme.next c (more ++ rest) = (.comment, more.length)) :
    Scans (c :: more) [] rest := by
  intro offset
  have hscan : scan (more ++ rest).length (offset + byteSize (c :: more)) rest =
      scan rest.length (offset + byteSize (c :: more)) rest :=
    scan_eq_of_le (by simp) (Nat.le_refl _)
  refine ⟨[], rfl, ?_⟩
  simp only [cut, List.cons_append, List.length_cons, scan, hc, hnext, List.take_left,
    List.drop_left]
  rw [hscan, if_neg Bool.false_ne_true, significant, List.filter_cons_of_neg (by simp)]
  rfl

end Token

/-- A filler scans to its line end or to nothing, whatever follows. -/
theorem Filler.scans (f : Filler) (rest : List Char) : Scans f.chars f.lexemes rest := by
  -- a slash starts nothing but a comment or an operator
  have hslash : Lexeme.isSpace '/' = false ∧ Unicode.isIdentStart '/' = false := by decide
  cases f with
  | blank c hc => exact .space hc
  | lineEnd => exact .newline
  | block body closed =>
    have hlength : Lexeme.commentLength? (body ++ '*' :: '/' :: rest) = some (body.length + 2) :=
      Lexeme.commentLength?_append closed rest
    refine .comment hslash.1 ?_
    simp [Lexeme.next, hslash.2, hlength]
  | line body single =>
    have hbody : ('/' :: body).all (· != '\n') = true := by
      simpa using fun c hc => ne_of_mem_of_not_mem hc single
    have htake : ('/' :: body ++ '\n' :: rest).takeWhile (· != '\n') = '/' :: body :=
      Lexeme.takeWhile_append_of_all hbody (by simp)
    have hcomment : Scans ('/' :: '/' :: body) [] ('\n' :: rest) := by
      refine .comment hslash.1 ?_
      rw [Lexeme.next, htake]
      simp [hslash.2]
    exact hcomment.append .newline

/-- Fillers one behind the other scan to their line ends. -/
theorem scans_gap (gap : List Filler) (rest : List Char) :
    Scans (gapChars gap) (gapLexemes gap) rest := by
  induction gap with
  | nil => exact .nil
  | cons f gap ih => exact (f.scans _).append ih

/-- The characters with which fillers start. -/
def Filler.heads : List Char := [' ', '\t', '\r', '\x0b', '\x0c', '\n', '/']

/-- Every filler starts with one of `Filler.heads`. -/
theorem Filler.exists_head (f : Filler) : ∃ c ∈ heads, ∃ cs, f.chars = c :: cs := by
  cases f with
  | blank c hc =>
    refine ⟨c, ?_, [], rfl⟩
    simp only [Lexeme.isSpace, Bool.or_eq_true, beq_iff_eq] at hc
    rcases hc with (((rfl | rfl) | rfl) | rfl) | rfl <;> decide
  | lineEnd => exact ⟨'\n', by decide, [], rfl⟩
  | block | line => exact ⟨'/', by decide, _, rfl⟩

/-- What holds of the starts of fillers and of the text behind them holds of the start of both
together. -/
theorem forall_head?_gap {P : Char → Prop} [DecidablePred P]
    (hfiller : Filler.heads.all (decide <| P ·) = true) (gap : List Filler) {rest : List Char}
    (hrest : ∀ c ∈ rest.head?, P c) : ∀ c ∈ (gapChars gap ++ rest).head?, P c := by
  cases gap with
  | nil => exact hrest
  | cons f gap =>
    obtain ⟨c, hc, cs, hchars⟩ := f.exists_head
    simpa [gapChars, hchars] using List.all_eq_true.1 hfiller c hc

/-- The text goes on, behind fillers, with what ends a parameter. -/
def TypeEnds (rest : List Char) : Prop :=
  ∃ gap c more, rest = gapChars gap ++ c :: more ∧ (c = ',' ∨ c = ')')

/-- What holds of the starts of fillers, of the comma and of the closing parenthesis holds of the
character behind every type. -/
theorem TypeEnds.forall_head? {P : Char → Prop} [DecidablePred P]
    (hfiller : Filler.heads.all (decide <| P ·) = true) (hcomma : P ',') (hclose : P ')')
    {rest : List Char} (h : TypeEnds rest) : ∀ c ∈ rest.head?, P c := by
  obtain ⟨gap, c, more, rfl, hc⟩ := h
  refine forall_head?_gap hfiller gap ?_
  rcases hc with rfl | rfl <;> simpa

/-- No word goes on where a type ends. -/
theorem TypeEnds.wordEnds {rest : List Char} (h : TypeEnds rest) : WordEnds rest :=
  h.forall_head? (by decide) (by decide) (by decide)

/-! ### Texts that are read as a type -/

/-- The tokens continue, after any line ends, with what ends a parameter. -/
def Closed (ts : List Token) : Prop := Closes (skipLines ts)

/-- Tokens with these lexemes are read as the type `t`, after any line ends and in front of everything
that ends a parameter. -/
def ReadAs (t : TypeExpr) (ls : List Lexeme) : Prop :=
  ∀ lines ts more, (∀ l ∈ lines, l.lexeme = .newline) → ts.map (·.lexeme) = ls → Closed more →
    innerType? (lines ++ (ts ++ more)) = some (t, more)

/-- A word that is a name where a type can stand. -/
structure Word where
  chars : List Char
  isWord : isWordText chars = true
  notKeyword : keywordType? (.ofList chars) = none

/-- A character that starts a word differs from each one that does not. -/
theorem ne_of_isIdentStart {c d : Char} (hc : Unicode.isIdentStart c = true)
    (hd : Unicode.isIdentStart d = false) : c ≠ d := by
  rintro rfl
  exact Bool.false_ne_true (hd.symm.trans hc)

/-- No word starts with a digit. -/
theorem not_isDigit_of_isIdentStart {c : Char} (hc : Unicode.isIdentStart c = true) :
    c.isDigit = false := by
  refine Bool.eq_false_iff.2 fun hdigit => ?_
  have hascii : c.toNat < 128 :=
    Printed.toNat_lt_of_isAlphanum (by simp [Char.isAlphanum, hdigit])
  have hnot := Printed.forall_ascii
    (P := fun c => c.isDigit = true → Unicode.isIdentStart c = false) (by decide +kernel) hascii
    hdigit
  exact Bool.false_ne_true (hnot.symm.trans hc)

namespace Word

def text (w : Word) : String := .ofList w.chars

/-- A name stands for no keyword of types. -/
theorem keywordType?_text (w : Word) : keywordType? w.text = none := w.notKeyword

/-- A name is a character that starts words, with characters behind it that go on with them. -/
theorem exists_cons (w : Word) : ∃ c cs, w.chars = c :: cs ∧ Unicode.isIdentStart c = true ∧
    ∀ d ∈ cs, Unicode.isIdentContinue d = true := by
  have hword := w.isWord
  cases hchars : w.chars with
  | nil =>
    rw [hchars] at hword
    cases hword
  | cons c cs =>
    rw [hchars] at hword
    obtain ⟨hc, hcs⟩ := Bool.and_eq_true_iff.1 hword
    exact ⟨c, cs, rfl, hc, List.all_eq_true.1 hcs⟩

/-- No name has a line end in it. -/
theorem newline_not_mem (w : Word) : '\n' ∉ w.chars := by
  obtain ⟨c, cs, hchars, hc, hcs⟩ := w.exists_cons
  rw [hchars]
  intro hmem
  rcases List.mem_cons.1 hmem with h | h
  · exact ne_of_isIdentStart hc (by decide) h.symm
  · exact absurd (hcs _ h) (by decide)

/-- A name scans to one word where no word goes on. -/
theorem scans (w : Word) {rest : List Char} (hrest : WordEnds rest) :
    Scans w.chars [.word w.text] rest :=
  .word w.isWord hrest

end Word

/-- The length of an array: an expression that ends at the closing bracket. -/
structure Length where
  chars : List Char
  lexemes : List Lexeme
  scans : ∀ rest, Scans chars lexemes (']' :: rest)
  notSlice : ∀ ts o more, ts.map (·.lexeme) = lexemes →
    expect? "]" (ts ++ ⟨.punct "]", o⟩ :: more) = none
  isExpr : ∀ ts o more, ts.map (·.lexeme) = lexemes →
    ((Symbol.rests (.expr .inner) (ts ++ ⟨.punct "]", o⟩ :: more)).filterMap (expect? "]")).head? =
      some more

/-- The type is not looked into. -/
def TypeExpr.isOther : TypeExpr → Bool
  | map | channel | function | interface | struct | generic _ | negated _ => true
  | _ => false

/-- A type that is not looked into, such as `map[K]V`. -/
structure Form where
  chars : List Char
  lexemes : List Lexeme
  type : TypeExpr
  isOther : type.isOther = true
  scans : ∀ rest, TypeEnds rest → Scans chars lexemes rest
  readAs : ReadAs type lexemes

/-- A type as it is written. -/
inductive Spelling where
  | name (n : Word)
  | qualified (q n : Word)
  | form (f : Form)
  | pointer (gap : List Filler) (t : Spelling)
  | slice (gap : List Filler) (t : Spelling)
  | array (length : Length) (gap : List Filler) (t : Spelling)
  | paren (before : List Filler) (t : Spelling) (after : List Filler)

namespace Spelling

def chars : Spelling → List Char
  | name n => n.chars
  | qualified q n => q.chars ++ '.' :: n.chars
  | form f => f.chars
  | pointer gap t => '*' :: (gapChars gap ++ t.chars)
  | slice gap t => '[' :: ']' :: (gapChars gap ++ t.chars)
  | array length gap t => '[' :: (length.chars ++ ']' :: (gapChars gap ++ t.chars))
  | paren before t after => '(' :: (gapChars before ++ (t.chars ++ (gapChars after ++ [')'])))

def lexemes : Spelling → List Lexeme
  | name n => [.word n.text]
  | qualified q n => [.word q.text, .punct ".", .word n.text]
  | form f => f.lexemes
  | pointer gap t => .punct "*" :: (gapLexemes gap ++ t.lexemes)
  | slice gap t => .punct "[" :: .punct "]" :: (gapLexemes gap ++ t.lexemes)
  | array length gap t =>
    .punct "[" :: (length.lexemes ++ .punct "]" :: (gapLexemes gap ++ t.lexemes))
  | paren before t after =>
    .punct "(" :: (gapLexemes before ++ (t.lexemes ++ (gapLexemes after ++ [.punct ")"])))

/-- The syntax tree, without comments. -/
def expr : Spelling → TypeExpr
  | name n => .name n.text
  | qualified q n => .qualified q.text n.text
  | form f => f.type
  | pointer _ t => .pointer t.expr
  | slice _ t => .slice t.expr
  | array _ _ t => .array t.expr
  | paren _ t _ => .paren t.expr

end Spelling

/-! ### The lexemes of a spelling -/

/-- A type ends in front of fillers and the closing parenthesis. -/
theorem typeEnds_close (gap : List Filler) (rest : List Char) :
    TypeEnds (gapChars gap ++ ')' :: rest) :=
  ⟨gap, ')', rest, rfl, .inr rfl⟩

/-- An equals sign starts an operator that starts no type. -/
theorem Token.exists_cut_equals (offset : Nat) (rest : List Char) :
    ∃ p us, (p = "=" ∨ p = "==") ∧ cut offset ('=' :: rest) = ⟨.punct p, offset⟩ :: us := by
  have hequals : Lexeme.punctuation.filter (·.toList.head?.all (· == '=')) = ["==", "="] := by decide
  obtain ⟨p, hp, hfind⟩ : ∃ p, (p = "=" ∨ p = "==") ∧
      (Lexeme.punctuation.find? fun p => p.toList.isPrefixOf ('=' :: rest)) = some p := by
    rw [find?_punctuation, hequals]
    cases rest with
    | nil => exact ⟨"=", .inl rfl, rfl⟩
    | cons c rest =>
      by_cases hc : '=' = c
      · exact ⟨"==", .inr rfl, by simp [← hc]⟩
      · exact ⟨"=", .inl rfl, by simp [hc]⟩
  have hnumber : Lexeme.numberLength ('=' :: rest) = 0 :=
    Lexeme.numberLength_of_not (by decide) (by simp)
  have hstart : Lexeme.isSpace '=' = false ∧ Unicode.isIdentStart '=' = false := by decide
  have hnext : Lexeme.next '=' rest = (.punct p, p.length - 1) := by
    simp [Lexeme.next, hstart.2, hnumber, hfind]
  have hcut : cut offset ('=' :: rest) = ⟨.punct p, offset⟩ :: significant (scan rest.length
      (offset + byteSize ('=' :: rest.take (p.length - 1))) (rest.drop (p.length - 1))) := by
    rw [cut, List.length_cons, scan, hstart.1, if_neg Bool.false_ne_true, hnext, significant,
      List.filter_cons_of_pos (by simp)]
    rfl
  exact ⟨p, _, hp, hcut⟩

/-- No form starts with an equals sign, which would make one operator with a star in front of it. -/
theorem Form.head?_chars_ne (f : Form) : f.chars.head? ≠ some '=' := by
  intro hhead
  obtain ⟨cs, hcs⟩ := List.head?_eq_some_iff.1 hhead
  obtain ⟨ts, hts, hcut⟩ := f.scans [')'] (typeEnds_close [] []) 0
  obtain ⟨p, us, hp, hequals⟩ := Token.exists_cut_equals 0 (cs ++ [')'])
  have hread := f.readAs [] ts [⟨.punct ")", 0⟩] (by simp) hts ⟨0, [], .inr rfl⟩
  rw [hcs, List.cons_append, hequals] at hcut
  cases ts with
  | nil => exact absurd hread (by simp [innerType?, typeExpr?])
  | cons t ts =>
    obtain ⟨rfl, -⟩ := List.cons.inj hcut
    rcases hp with rfl | rfl <;> exact absurd hread (by simp [innerType?, typeExpr?])

namespace Spelling

/-- No type starts with an equals sign, so that a star in front of one stays a token of its own. -/
theorem head?_chars_ne (t : Spelling) {rest : List Char} (hrest : TypeEnds rest) :
    ∀ c ∈ (t.chars ++ rest).head?, c ≠ '=' := by
  cases t with
  | name n =>
    obtain ⟨c, cs, hchars, hc, -⟩ := n.exists_cons
    simpa [chars, hchars] using ne_of_isIdentStart hc (by decide)
  | qualified q n =>
    obtain ⟨c, cs, hchars, hc, -⟩ := q.exists_cons
    simpa [chars, hchars] using ne_of_isIdentStart hc (by decide)
  | form f =>
    have hform := f.head?_chars_ne
    rw [chars]
    cases hchars : f.chars with
    | nil => exact hrest.forall_head? (by decide) (by decide) (by decide)
    | cons c cs => simpa [hchars] using hform
  | pointer | slice | array | paren => simp [chars]

/-- The text of a spelling is cut into its lexemes. -/
theorem scans (t : Spelling) {rest : List Char} (hrest : TypeEnds rest) :
    Scans t.chars t.lexemes rest := by
  induction t generalizing rest with
  | name n => exact n.scans hrest.wordEnds
  | qualified q n =>
    obtain ⟨c, cs, hchars, hc, -⟩ := n.exists_cons
    have hpoint : Scans ['.'] [.punct "."] (n.chars ++ rest) := by
      rw [hchars]
      exact .of_cut (cut_point (not_isDigit_of_isIdentStart hc) (ne_of_isIdentStart hc (by decide)))
    exact (q.scans (.cons (by decide) _)).append (hpoint.append (n.scans hrest.wordEnds))
  | form f => exact f.scans rest hrest
  | pointer gap t ih =>
    have hne : ∀ c ∈ (gapChars gap ++ (t.chars ++ rest)).head?, c ≠ '=' :=
      forall_head?_gap (by decide) gap (t.head?_chars_ne hrest)
    have hstar : Scans ['*'] [.punct "*"] (gapChars gap ++ t.chars ++ rest) := by
      rw [List.append_assoc]
      exact .of_cut (cut_star fun h => hne '=' h rfl)
    exact hstar.append ((scans_gap gap _).append (ih hrest))
  | slice gap t ih =>
    have hmark : Scans ['[', ']'] [.punct "[", .punct "]"] (gapChars gap ++ t.chars ++ rest) :=
      (Scans.bracket (by decide)).append (.bracket (by decide))
    exact hmark.append ((scans_gap gap _).append (ih hrest))
  | array length gap t ih =>
    have hclose := (Scans.bracket (c := ']') (p := "]") (by decide)).append
      ((scans_gap gap _).append (ih hrest))
    exact (Scans.bracket (by decide)).append ((length.scans _).append hclose)
  | paren before t after ih =>
    have hclose : Scans (gapChars after ++ [')']) (gapLexemes after ++ [.punct ")"]) rest :=
      (scans_gap after _).append (.bracket (by decide))
    have hends : TypeEnds (gapChars after ++ [')'] ++ rest) := by
      rw [List.append_assoc]
      exact typeEnds_close after rest
    exact (Scans.bracket (by decide)).append
      ((scans_gap before _).append ((ih hends).append hclose))

end Spelling

/-! ### Reading a spelling -/

/-- Line ends in front are skipped, however many there are. -/
theorem skipLines_append {lines : List Token} (hlines : ∀ l ∈ lines, l.lexeme = .newline)
    (ts : List Token) : skipLines (lines ++ ts) = skipLines ts :=
  List.dropWhile_append_of_pos (by simpa using hlines)

/-- Tokens with nothing but line ends for lexemes are line ends. -/
theorem forall_newline_of_map {ls : List Lexeme} (hls : ∀ l ∈ ls, l = .newline) {ts : List Token}
    (hts : ts.map (·.lexeme) = ls) : ∀ t ∈ ts, t.lexeme = .newline :=
  List.forall_mem_map.1 (hts ▸ hls)

/-- Where a parameter ends, no operator but the comma and the closing parenthesis is read. -/
theorem Closed.expect? {ts : List Token} (h : Closed ts) {p : String} (hp : p ≠ "," ∧ p ≠ ")") :
    expect? p ts = none := by
  obtain ⟨o, rest, hskip | hskip⟩ := h
  · simp [Go.expect?, hskip, hp.1.symm]
  · simp [Go.expect?, hskip, hp.2.symm]

/-- A text that ends a parameter has the tokens that end one. -/
theorem TypeEnds.closed {rest : List Char} (h : TypeEnds rest) (offset : Nat) :
    Closed (cut offset rest) := by
  obtain ⟨gap, c, more, rfl, hc⟩ := h
  obtain ⟨ts, hts, hcut⟩ := scans_gap gap (c :: more) offset
  have hskip := skipLines_append (forall_newline_of_map (gapLexemes_eq_newline gap) hts)
    (cut (offset + byteSize (gapChars gap)) (c :: more))
  rw [Closed, hcut, hskip]
  rcases hc with rfl | rfl
  · rw [Token.cut_bracket (p := ",") (by decide)]
    exact ⟨_, _, .inl rfl⟩
  · rw [Token.cut_bracket (p := ")") (by decide)]
    exact ⟨_, _, .inr rfl⟩

section TypeExpr

variable {fuel : Nat} {c : Place} {ts us more : List Token} {o : Nat} {w : String}

/-- A star makes the type behind it a pointer. -/
theorem typeExpr?_of_star (h : skipLines ts = ⟨.punct "*", o⟩ :: us) :
    typeExpr? (fuel + 1) c ts = (typeExpr? fuel c us).map fun (t, r) => (.pointer t, r) := by
  simp [typeExpr?, h]

/-- An opening parenthesis starts a type that goes up to the closing one, and is kept in the tree.
-/
theorem typeExpr?_of_paren (h : skipLines ts = ⟨.punct "(", o⟩ :: us) :
    typeExpr? (fuel + 1) c ts = (typeExpr? fuel .inner us).bind fun (t, r) =>
      (expect? ")" r).map fun r => (.paren t, r) := by
  simp [typeExpr?, h]

/-- Brackets with nothing between them make the type behind them a slice. -/
theorem typeExpr?_of_slice (h : skipLines ts = ⟨.punct "[", o⟩ :: us)
    (hclose : expect? "]" us = some more) :
    typeExpr? (fuel + 1) c ts = (typeExpr? fuel c more).map fun (t, r) => (.slice t, r) := by
  rw [typeExpr?, h]
  simp only [hclose]

/-- Brackets with an expression between them make the type behind them an array. -/
theorem typeExpr?_of_array (h : skipLines ts = ⟨.punct "[", o⟩ :: us)
    (hopen : expect? "]" us = none)
    (hlength : ((Symbol.rests (.expr .inner) us).filterMap (expect? "]")).head? = some more) :
    typeExpr? (fuel + 1) c ts = (typeExpr? fuel c more).map fun (t, r) => (.array t, r) := by
  obtain ⟨rests, hrests⟩ := List.head?_eq_some_iff.1 hlength
  rw [typeExpr?, h]
  simp only [hopen, hrests]

/-- A word that is no keyword of types is read as a name, with whatever belongs to it. -/
theorem typeExpr?_of_word (h : skipLines ts = ⟨.word w, o⟩ :: us) (hw : keywordType? w = none) :
    typeExpr? (fuel + 1) c ts = some (namedType c w us) := by
  rw [typeExpr?, h]
  simp only [hw]

/-- The operators that start a type. -/
def typeMarks : List String := ["*", "~", "[", "<-", "("]

/-- No type is read in front of an operator outside of `typeMarks`. -/
theorem typeExpr?_of_punct {p : String} (h : skipLines ts = ⟨.punct p, o⟩ :: us)
    (hp : p ∉ typeMarks) : typeExpr? fuel c ts = none := by
  cases fuel with
  | zero => rw [typeExpr?]
  | succ fuel =>
    rw [typeExpr?, h]
    split <;> simp_all [typeMarks]

/-- More fuel does not change what is read. -/
theorem typeExpr?_mono {m n : Nat} {x : TypeExpr × List Token} (hle : m ≤ n)
    (h : typeExpr? m c ts = some x) : typeExpr? n c ts = some x := by
  induction m generalizing n c ts x with
  | zero =>
    rw [typeExpr?] at h
    cases h
  | succ m ih =>
    obtain ⟨n, rfl⟩ := Nat.exists_eq_add_one_of_ne_zero (Nat.ne_zero_of_lt hle)
    have hle : m ≤ n := Nat.le_of_succ_le_succ hle
    rw [typeExpr?] at h ⊢
    split at h
    · obtain ⟨inner, hinner, rfl⟩ := Option.map_eq_some_iff.1 h
      simp only [ih hle hinner, Option.map_some]
    · obtain ⟨inner, hinner, rfl⟩ := Option.map_eq_some_iff.1 h
      simp only [ih hle hinner, Option.map_some]
    · obtain ⟨inner, hinner, hclose⟩ := Option.bind_eq_some_iff.1 h
      simp only [ih hle hinner, Option.bind_some, hclose]
    · split at h
      · obtain ⟨inner, hinner, rfl⟩ := Option.map_eq_some_iff.1 h
        simp only [ih hle hinner, Option.map_some]
      · split at h
        · obtain ⟨inner, hinner, rfl⟩ := Option.map_eq_some_iff.1 h
          simp only [ih hle hinner, Option.map_some]
        · cases h
    · exact h
    · exact h
    · cases h

/-- What is read behind a mark can be read with the fuel that is left. -/
theorem typeExpr?_of_innerType? (ts : List Token) {x : TypeExpr × List Token}
    (h : innerType? us = some x) (hlength : us.length < ts.length) :
    typeExpr? ts.length .inner us = some x :=
  typeExpr?_mono hlength h

/-- Where a type is read, no operator outside of `typeMarks` comes next. -/
theorem expect?_of_innerType? {x : TypeExpr × List Token} (h : innerType? ts = some x)
    {p : String} (hp : p ∉ typeMarks) : expect? p ts = none := by
  rw [expect?]
  split
  · rename_i t rest hskip
    split
    · rename_i hlexeme
      obtain ⟨l, o⟩ := t
      obtain rfl : l = .punct p := beq_iff_eq.1 hlexeme
      rw [innerType?, typeExpr?_of_punct hskip hp] at h
      cases h
    · rfl
  · rfl

end TypeExpr

namespace ReadAs

variable {t : TypeExpr} {ls gap : List Lexeme}

/-- A word is read as the name it is. -/
theorem name (w : Word) : ReadAs (.name w.text) [.word w.text] := by
  intro lines ts more hlines hts hmore
  obtain ⟨o, us, rfl, hus⟩ := exists_of_map_lexeme hts
  obtain rfl := List.map_eq_nil_iff.1 hus
  rw [innerType?, typeExpr?_of_word (skipLines_append hlines _) w.keywordType?_text]
  exact congrArg some (namedType_name (hmore.expect? (by decide)) (hmore.expect? (by decide)))

/-- `q.N` is read as the name `N` of the package `q`. -/
theorem qualified (q n : Word) :
    ReadAs (.qualified q.text n.text) [.word q.text, .punct ".", .word n.text] := by
  intro lines ts more hlines hts hmore
  obtain ⟨o, us, rfl, hus⟩ := exists_of_map_lexeme hts
  obtain ⟨o', vs, rfl, hvs⟩ := exists_of_map_lexeme hus
  obtain ⟨o'', xs, rfl, hxs⟩ := exists_of_map_lexeme hvs
  obtain rfl := List.map_eq_nil_iff.1 hxs
  rw [innerType?, typeExpr?_of_word (skipLines_append hlines _) q.keywordType?_text]
  exact congrArg some (namedType_qualified (hmore.expect? (by decide)))

/-- Line ends in front of a type are passed over. -/
theorem behind_gap (h : ReadAs t ls) (hgap : ∀ l ∈ gap, l = .newline) {ts more : List Token}
    (hts : ts.map (·.lexeme) = gap ++ ls) (hmore : Closed more) :
    innerType? (ts ++ more) = some (t, more) := by
  obtain ⟨us, vs, rfl, hus, hvs⟩ := List.map_eq_append_iff.1 hts
  rw [List.append_assoc]
  exact h us vs more (forall_newline_of_map hgap hus) hvs hmore

/-- A star, line ends and a type are read as a pointer to that type. -/
theorem pointer (h : ReadAs t ls) (hgap : ∀ l ∈ gap, l = .newline) :
    ReadAs (.pointer t) (.punct "*" :: (gap ++ ls)) := by
  intro lines ts more hlines hts hmore
  obtain ⟨o, us, rfl, hus⟩ := exists_of_map_lexeme hts
  have hinner := typeExpr?_of_innerType? (lines ++ ⟨.punct "*", o⟩ :: (us ++ more))
    (h.behind_gap hgap hus hmore) (by simp; omega)
  rw [innerType?, List.cons_append, typeExpr?_of_star (skipLines_append hlines _), hinner]
  rfl

/-- `[]`, line ends and a type are read as a slice of that type. -/
theorem slice (h : ReadAs t ls) (hgap : ∀ l ∈ gap, l = .newline) :
    ReadAs (.slice t) (.punct "[" :: .punct "]" :: (gap ++ ls)) := by
  intro lines ts more hlines hts hmore
  obtain ⟨o, us, rfl, hus⟩ := exists_of_map_lexeme hts
  obtain ⟨o', vs, rfl, hvs⟩ := exists_of_map_lexeme hus
  have hinner := typeExpr?_of_innerType?
    (lines ++ ⟨.punct "[", o⟩ :: ⟨.punct "]", o'⟩ :: (vs ++ more))
    (h.behind_gap hgap hvs hmore) (by simp; omega)
  rw [innerType?, List.cons_append, List.cons_append,
    typeExpr?_of_slice (skipLines_append hlines _) (expect?_punct.trans (if_pos rfl)), hinner]
  rfl

/-- A length in brackets, line ends and a type are read as an array of that type. -/
theorem array (h : ReadAs t ls) (n : Length) (hgap : ∀ l ∈ gap, l = .newline) :
    ReadAs (.array t) (.punct "[" :: (n.lexemes ++ .punct "]" :: (gap ++ ls))) := by
  intro lines ts more hlines hts hmore
  obtain ⟨o, us, rfl, hus⟩ := exists_of_map_lexeme hts
  obtain ⟨vs, xs, rfl, hvs, hxs⟩ := List.map_eq_append_iff.1 hus
  obtain ⟨o', ys, rfl, hys⟩ := exists_of_map_lexeme hxs
  have hinner := typeExpr?_of_innerType?
    (lines ++ ⟨.punct "[", o⟩ :: (vs ++ ⟨.punct "]", o'⟩ :: (ys ++ more)))
    (h.behind_gap hgap hys hmore) (by simp; omega)
  rw [innerType?, List.cons_append, List.append_assoc, List.cons_append,
    typeExpr?_of_array (skipLines_append hlines _) (n.notSlice vs o' _ hvs) (n.isExpr vs o' _ hvs),
    hinner]
  rfl

/-- A type in parentheses, with line ends on both sides of it, is read with its parentheses. -/
theorem paren (h : ReadAs t ls) (hgap : ∀ l ∈ gap, l = .newline) {gap' : List Lexeme}
    (hgap' : ∀ l ∈ gap', l = .newline) :
    ReadAs (.paren t) (.punct "(" :: (gap ++ (ls ++ (gap' ++ [.punct ")"])))) := by
  intro lines ts more hlines hts hmore
  obtain ⟨o, us, rfl, hus⟩ := exists_of_map_lexeme hts
  rw [← List.append_assoc] at hus
  obtain ⟨vs, xs, rfl, hvs, hxs⟩ := List.map_eq_append_iff.1 hus
  obtain ⟨ys, zs, rfl, hys, hzs⟩ := List.map_eq_append_iff.1 hxs
  obtain ⟨o', as, rfl, has⟩ := exists_of_map_lexeme hzs
  obtain rfl := List.map_eq_nil_iff.1 has
  have hskip := skipLines_append (forall_newline_of_map hgap' hys) (⟨.punct ")", o'⟩ :: more)
  have hclosed : Closed (ys ++ ⟨.punct ")", o'⟩ :: more) := ⟨o', more, .inr hskip⟩
  have hclose : expect? ")" (ys ++ ⟨.punct ")", o'⟩ :: more) = some more := by
    simp [expect?, hskip]
  have hinner := typeExpr?_of_innerType?
    (lines ++ ⟨.punct "(", o⟩ :: (vs ++ (ys ++ ⟨.punct ")", o'⟩ :: more)))
    (h.behind_gap hgap hvs hclosed) (by simp; omega)
  rw [innerType?, List.cons_append, List.append_assoc, List.append_assoc, List.singleton_append,
    typeExpr?_of_paren (skipLines_append hlines _), hinner, Option.bind_some]
  simp only [hclose, Option.map_some]

end ReadAs

/-- **A spelling is read as its syntax tree**, whatever comments and line ends are in it. -/
theorem Spelling.readAs (t : Spelling) : ReadAs t.expr t.lexemes := by
  induction t with
  | name n => exact .name n
  | qualified q n => exact .qualified q n
  | form f => exact f.readAs
  | pointer gap t ih => exact ih.pointer (gapLexemes_eq_newline gap)
  | slice gap t ih => exact ih.slice (gapLexemes_eq_newline gap)
  | array length gap t ih => exact ih.array length (gapLexemes_eq_newline gap)
  | paren before t after ih =>
    exact ih.paren (gapLexemes_eq_newline before) (gapLexemes_eq_newline after)

end Go
end RequiredArgs
