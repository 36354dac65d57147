/-
# Shapes of declared types

The shape of a type does not depend on how the type is written. It has one pointer or array for each
pointer, slice or array on the way to the core of the type, in the same order, and at its end what is
kept of the core (`TypeExpr.exists_coreShape`):

| core | shape |
| --- | --- |
| `T` | `ident` |
| `q.T` | `qualified` |
| map, channel, function, interface, structure, generic type | `unsupported`, with its kind |

Parentheses around any type on that way, and lengths for slices, are changes of spelling
(`TypeExpr.Respells`), and so are comments, which are not in the syntax tree.
`TypeExpr.shape_of_spelling` puts both together: a parameter whose type is spelled in any of these ways
is read with the same shape.

The source that is read declares one function with one parameter, whose type is left open (`Frame`).
-/

import Mathlib.Data.List.Infix
import Mathlib.Logic.Relation
import RequiredArgs.Proofs.SourceRoundTrip
import RequiredArgs.Proofs.TypeForms

namespace RequiredArgs
namespace Go

open Token (cut Scans exists_of_map_lexeme)
open Lexeme (WordEnds)

/-! ### The spine of a type -/

/-- What a pointer, or a slice or array, leaves in a shape. -/
inductive SpineMark where
  | pointer
  | array
deriving DecidableEq, Repr

/-- A shape with a mark in front. -/
def SpineMark.around : SpineMark → Shape → Shape
  | pointer => .pointer
  | array => .array

namespace TypeExpr

/-- The pointers, slices and arrays on the way to the core of a type, from the outside in. -/
def marks : TypeExpr → List SpineMark
  | pointer t => .pointer :: t.marks
  | slice t | array t => .array :: t.marks
  | paren t => t.marks
  | _ => []

/-- What is left without pointers, slices, arrays and parentheses. -/
def core : TypeExpr → TypeExpr
  | pointer t | slice t | array t | paren t => t.core
  | t => t

/-- The shapes of the types that are a core of their own. -/
inductive CoreShape : TypeExpr → Shape → Prop
  | name (n : String) : CoreShape (.name n) (.ident n)
  | qualified (q n : String) : CoreShape (.qualified q n) (.qualified q n)
  | map : CoreShape .map (.unsupported .map)
  | channel : CoreShape .channel (.unsupported .channel)
  | function : CoreShape .function (.unsupported .function)
  | interface : CoreShape .interface (.unsupported .interface)
  | struct : CoreShape .struct (.unsupported .struct)
  | generic (base : TypeExpr) : CoreShape (.generic base) (.unsupported .generic)
  | negated (t : TypeExpr) : CoreShape (.negated t) (.unsupported .other)

/-- A shape is the shape of the core behind one mark for each pointer, slice or array. -/
theorem exists_coreShape (t : TypeExpr) :
    ∃ s, CoreShape t.core s ∧ t.shape = t.marks.foldr SpineMark.around s := by
  induction t with
  | pointer t ih | slice t ih | array t ih =>
    obtain ⟨s, hs, hshape⟩ := ih
    exact ⟨s, hs, congrArg _ hshape⟩
  | paren t ih => exact ih
  | name n => exact ⟨_, .name n, rfl⟩
  | qualified q n => exact ⟨_, .qualified q n, rfl⟩
  | map => exact ⟨_, .map, rfl⟩
  | channel => exact ⟨_, .channel, rfl⟩
  | function => exact ⟨_, .function, rfl⟩
  | interface => exact ⟨_, .interface, rfl⟩
  | struct => exact ⟨_, .struct, rfl⟩
  | generic base => exact ⟨_, .generic base, rfl⟩
  | negated t => exact ⟨_, .negated t, rfl⟩

/-- A change of spelling at one place of the spine: parentheses around a type, or a length for a
slice. -/
inductive Respells : TypeExpr → TypeExpr → Prop
  | wrap (t : TypeExpr) : Respells t (paren t)
  | lengthen (t : TypeExpr) : Respells (slice t) (array t)
  | pointer {t t' : TypeExpr} (h : Respells t t') : Respells (pointer t) (pointer t')
  | slice {t t' : TypeExpr} (h : Respells t t') : Respells (slice t) (slice t')
  | array {t t' : TypeExpr} (h : Respells t t') : Respells (array t) (array t')
  | paren {t t' : TypeExpr} (h : Respells t t') : Respells (paren t) (paren t')

/-- Any number of such changes, forth and back. -/
def Respelled : TypeExpr → TypeExpr → Prop := Relation.EqvGen Respells

/-- One change of spelling keeps the shape: parentheses leave no trace in it, and slices and arrays
leave the same. -/
theorem Respells.shape_eq {t t' : TypeExpr} (h : Respells t t') : t.shape = t'.shape := by
  induction h with
  | wrap | lengthen => rfl
  | pointer _ ih => exact congrArg Shape.pointer ih
  | slice _ ih | array _ ih => exact congrArg Shape.array ih
  | paren _ ih => exact ih

/-- Any number of changes keeps the shape. -/
theorem Respelled.shape_eq {t t' : TypeExpr} (h : Respelled t t') : t.shape = t'.shape := by
  induction h with
  | rel t t' h => exact h.shape_eq
  | refl t => rfl
  | symm t t' _ ih => exact ih.symm
  | trans t u v _ _ ih ih' => exact ih.trans ih'

end TypeExpr

/-! ### A file with one parameter -/

/-- A file with one function, which has one parameter; the parameter's type is left open. -/
structure Frame where
  package : Word
  function : Word
  parameter : Word

namespace Frame

/-- The lines in front of the function. -/
def preamble (f : Frame) : List Char := "package".toList ++ ' ' :: (f.package.chars ++ ['\n', '\n'])

/-- The line of the function from the blank behind its keyword on. -/
def body (f : Frame) (t : Spelling) : List Char :=
  ' ' :: (f.function.chars ++ '(' :: (f.parameter.chars ++ ' ' :: (t.chars ++
    [')', ' ', '\x7b', '\x7d'])))

def chars (f : Frame) (t : Spelling) : List Char :=
  f.preamble ++ ("func".toList ++ (f.body t ++ ['\n']))

def text (f : Frame) (t : Spelling) : String := .ofList (f.chars t)

/-- What is to be read: one function at the start of the third line, with one parameter. -/
def reading (f : Frame) (path : String) (shape : Shape) : SourceFile where
  path
  imports := .ofList []
  functions := [{
    name := f.function.text
    params := [{ names := [f.parameter.text], shape }]
    site := { line := 3, column := 1, offset := .ofNat (byteSize f.preamble) } }]
  hasSyntaxErrors := false

/-- The lexemes behind the keyword of the function. -/
def lexemes (f : Frame) (t : Spelling) : List Lexeme :=
  .word f.function.text :: .punct "(" :: .word f.parameter.text ::
    (t.lexemes ++ [.punct ")", .punct "\x7b", .punct "\x7d"])

/-- The line of the function is cut into its lexemes, those of the type in the middle. -/
theorem scans_body (f : Frame) (t : Spelling) (rest : List Char) :
    Scans (f.body t) (f.lexemes t) rest := by
  have hend : Scans [')', ' ', '\x7b', '\x7d'] [.punct ")", .punct "\x7b", .punct "\x7d"] rest :=
    (Scans.bracket (by decide)).append (Scans.blank.append
      ((Scans.bracket (by decide)).append (.bracket (by decide))))
  have hends : TypeEnds ([')', ' ', '\x7b', '\x7d'] ++ rest) := typeEnds_close [] _
  have htype := (t.scans hends).append hend
  have hparam := (f.parameter.scans (.cons (by decide) _)).append (Scans.blank.append htype)
  exact Scans.blank.append ((f.function.scans (.cons (by decide) _)).append
    ((Scans.bracket (c := '(') (p := "(") (by decide)).append hparam))

end Frame

/-! ### Reading the file -/

/-- A name and a type that is read behind it are an entry. -/
theorem read?_named (w : Word) (afterName : Bool) {t : TypeExpr} {ts more : List Token} {o : Nat}
    (h : innerType? ts = some (t, more)) (hmore : ParamEntry.atEnd more = true) :
    ParamEntry.read? afterName (⟨.word w.text, o⟩ :: ts) = some (.named w.text t, more) := by
  have hdots : expect? "..." ts = none := expect?_of_innerType? h (by decide)
  have hstart : ParamEntry.atEnd ts = false := by
    have hcomma : expect? "," ts = none := expect?_of_innerType? h (by decide)
    have hclose : expect? ")" ts = none := expect?_of_innerType? h (by decide)
    simp [ParamEntry.atEnd, startsWith, hcomma, hclose]
  rw [read?_word w.keywordType?_text, ParamEntry.ofName?, hdots]
  simp [hstart, ParamEntry.ofNamed?, h, hmore]

namespace Frame

variable {f : Frame} {t : Spelling} {ts : List Token}

/-- The parameter that is read. -/
def param (f : Frame) (t : Spelling) : Param := { names := [f.parameter.text], type := t.expr }

/-- The parameter list is read as one parameter, with its name and the type of the spelling. -/
theorem paramList?_tokens {i j k : Nat} (hts : ts.map (·.lexeme) = t.lexemes)
    (more : List Token) :
    paramList? (⟨.punct "(", i⟩ :: ⟨.word f.parameter.text, j⟩ ::
      (ts ++ ⟨.punct ")", k⟩ :: more)) = some ([f.param t], true, more) := by
  have hcloses : Closes (⟨.punct ")", k⟩ :: more) := ⟨k, more, .inr rfl⟩
  have htype := t.readAs [] ts (⟨.punct ")", k⟩ :: more) (by simp) hts hcloses
  have hread := read?_named (o := j) f.parameter false htype hcloses.atEnd
  rw [List.nil_append] at hread
  simp [paramList?, paramEntries?, hread, hcloses.atEnd, paramEntries?.follow, ParamEntry.group,
    param]

/-- The function is read with its parameter. -/
theorem readItem_tokens (hts : ts.map (·.lexeme) = f.lexemes t) (offset : Nat)
    (more : List Token) :
    readItem ⟨.word "func", offset⟩ (ts ++ more) =
      { items := [.declared f.function.text [] [f.param t] offset], rest := more } := by
  obtain ⟨o₁, us₁, rfl, h₁⟩ := exists_of_map_lexeme hts
  obtain ⟨o₂, us₂, rfl, h₂⟩ := exists_of_map_lexeme h₁
  obtain ⟨o₃, us₃, rfl, h₃⟩ := exists_of_map_lexeme h₂
  obtain ⟨vs, xs, rfl, hvs, hxs⟩ := List.map_eq_append_iff.1 h₃
  obtain ⟨o₄, ys, rfl, hys⟩ := exists_of_map_lexeme hxs
  have hparams := paramList?_tokens (f := f) (i := o₂) (j := o₃) (k := o₄) hvs (ys ++ more)
  have hbody := afterHeader_empty more hys
  simp [readItem, funcDecl?, funcHeader?, afterTypeParams?, startsWith, hparams, hbody]

/-- The tokens of the file: two of the package clause, two line ends, and the function. -/
theorem exists_cut_chars (f : Frame) (t : Spelling) :
    ∃ o₁ o₂ k₁ k₂ ts k₃, ts.map (·.lexeme) = f.lexemes t ∧
      cut 0 (f.chars t) = ⟨.word "package", o₁⟩ :: ([⟨.word f.package.text, o₂⟩] ++ ⟨.newline, k₁⟩ ::
        ⟨.newline, k₂⟩ :: ⟨.word "func", byteSize f.preamble⟩ :: (ts ++ [⟨.newline, k₃⟩])) := by
  have hclause : Scans f.preamble [.word "package", .word f.package.text, .newline, .newline]
      ("func".toList ++ (f.body t ++ ['\n'])) := by
    have hlines : Scans ['\n', '\n'] [.newline, .newline] ("func".toList ++ (f.body t ++ ['\n'])) :=
      Scans.newline.append .newline
    have hname := (f.package.scans (.cons (by decide) _)).append hlines
    exact .keyword (by decide) (by decide) (Scans.blank.append hname)
  obtain ⟨us, hus, hcut⟩ := hclause 0
  obtain ⟨o₁, us₁, rfl, h₁⟩ := exists_of_map_lexeme hus
  obtain ⟨o₂, us₂, rfl, h₂⟩ := exists_of_map_lexeme h₁
  obtain ⟨k₁, us₃, rfl, h₃⟩ := exists_of_map_lexeme h₂
  obtain ⟨k₂, us₄, rfl, h₄⟩ := exists_of_map_lexeme h₃
  obtain rfl := List.map_eq_nil_iff.1 h₄
  have hword : WordEnds (f.body t ++ ['\n']) := .cons (by decide) _
  obtain ⟨ts, hts, hbody⟩ := f.scans_body t ['\n'] (byteSize f.preamble + byteSize "func".toList)
  rw [Nat.zero_add, Token.cut_word (by decide) hword, String.ofList_toList, hbody, Token.cut_newline,
    Token.cut_nil] at hcut
  exact ⟨o₁, o₂, k₁, k₂, ts, _, hts, hcut⟩

/-- The file is free of errors, and its only item is the function. -/
theorem readItems_chars (f : Frame) (t : Spelling) :
    readItems ((cut 0 (f.chars t)).length + 1) (cut 0 (f.chars t)) =
      ([.declared f.function.text [] [f.param t] (byteSize f.preamble)], true) := by
  obtain ⟨o₁, o₂, k₁, k₂, ts, k₃, hts, hcut⟩ := exists_cut_chars f t
  have hitem := readItem_tokens hts (byteSize f.preamble) [⟨.newline, k₃⟩]
  rw [hcut, readItems_cons _ (by simp) rfl, List.length_cons, List.length_append, List.length_cons,
    readItems_newline, readItems_cons _ (by simp) hitem]
  rfl

/-- The function stands on the third line. -/
theorem count_newline_preamble (f : Frame) : f.preamble.count '\n' = 2 := by
  have hname := List.count_eq_zero.2 f.package.newline_not_mem
  -- the keyword as a variable: `simp` would spell out the literal
  have hlines : ∀ k : List Char, k.count '\n' = 0 →
      (k ++ ' ' :: (f.package.chars ++ ['\n', '\n'])).count '\n' = 2 := by
    intro k hk
    simp [hk, hname]
  exact hlines "package".toList (by decide)

/-- The function stands at the start of its line. -/
theorem getLast?_preamble (f : Frame) : f.preamble.getLast? = some '\n' := by
  have hends : ∀ k : List Char,
      (k ++ ' ' :: (f.package.chars ++ ['\n', '\n'])).getLast? = some '\n' := by
    intro k
    exact List.getLast?_eq_some_iff.2 ⟨k ++ ' ' :: (f.package.chars ++ ['\n']), by simp⟩
  exact hends "package".toList

/-- **A file is read with the shape of its parameter**, whatever comments are in the type. -/
theorem parse_text (path : String) (f : Frame) (t : Spelling) :
    SourceFile.parse path (f.text t) = f.reading path t.expr.shape := by
  have htokens : Token.significant (Token.ofText (f.chars t)) = cut 0 (f.chars t) := by
    obtain ⟨rest, hrest⟩ : ∃ rest, f.chars t = 'p' :: rest := ⟨_, rfl⟩
    rw [hrest, Token.ofText, if_neg (by decide)]
    rfl
  have hsite : siteOf (f.chars t) (byteSize f.preamble) =
      { line := 3, column := 1, offset := .ofNat (byteSize f.preamble) } := by
    rw [chars, Printed.siteOf_append f.getLast?_preamble, f.count_newline_preamble]
    rfl
  simp only [SourceFile.parse, text, String.toList_ofList, htokens, readItems_chars]
  simp [functionsOf, importsOf, reading, receiverOf, param, Param.toGroup, hsite]

end Frame

/-- **A type has one shape, however it is spelled.**

* The shape is that of the core of the type behind one mark for each pointer, slice or array on the
  way to the core, in this order.
* Types that differ by parentheses on that way and by lengths of slices have the same shape.
* A spelling of such a type, with comments behind its marks and inside its parentheses, is read with
  that shape wherever the type of a parameter can stand; and a file that declares a function with a
  parameter of this type is read without errors as that function, with a parameter of that shape. -/
theorem TypeExpr.shape_of_spelling (t : TypeExpr) :
    (∃ s, CoreShape t.core s ∧ t.shape = t.marks.foldr SpineMark.around s) ∧
    (∀ t', Respelled t t' → t'.shape = t.shape) ∧
    (∀ s : Spelling, Respelled t s.expr →
      (∀ offset rest, TypeEnds rest → ∃ t' k,
        innerType? (cut offset (s.chars ++ rest)) = some (t', cut k rest) ∧ t'.shape = t.shape) ∧
      ∀ path (f : Frame), SourceFile.parse path (f.text s) = f.reading path t.shape) := by
  refine ⟨t.exists_coreShape, fun t' h => h.shape_eq.symm, fun s h => ⟨?_, ?_⟩⟩
  · intro offset rest hrest
    obtain ⟨ts, hts, hcut⟩ := s.scans hrest offset
    have hread := s.readAs [] ts _ (by simp) hts (hrest.closed (offset + byteSize s.chars))
    rw [List.nil_append, ← hcut] at hread
    exact ⟨s.expr, _, hread, h.shape_eq.symm⟩
  · intro path f
    rw [f.parse_text, ← h.shape_eq]

/-- The type `*[]sql.Tx` is read from a text with two pairs of parentheses, three comments and a length
as well, and each of the six forms of type that are not looked into from between parentheses. -/
theorem TypeExpr.shape_of_spelling_comments :
    let f : Frame := ⟨⟨['p'], rfl, rfl⟩, ⟨['F'], rfl, rfl⟩, ⟨['a'], rfl, rfl⟩⟩
    let k : Word := ⟨['K'], rfl, rfl⟩
    let comment : Filler := .block " c ".toList (by decide)
    let t : TypeExpr := .pointer (.slice (.qualified "sql" "Tx"))
    let s : Spelling := .pointer [comment] (.paren [.blank ' ' rfl] (.array
      (.decimal '4' ['2'] (by decide) (by simp)) [] (.paren [.line " d".toList (by decide)]
        (.qualified ⟨"sql".toList, rfl, rfl⟩ ⟨"Tx".toList, rfl, rfl⟩) [comment])) [])
    f.text s = "package p\n\nfunc F(a */* c */( [42](// d\nsql.Tx/* c */))) \x7b\x7d\n" ∧
    Respelled t s.expr ∧
    SourceFile.parse "a.go" (f.text s) =
      f.reading "a.go" (.pointer (.array (.qualified "sql" "Tx"))) ∧
    ∀ x ∈ [(Form.map k k, UnsupportedKind.map), (.channel k, .channel), (.function, .function),
        (.interface, .interface), (.struct, .struct), (.generic k k, .generic)],
      SourceFile.parse "a.go" (f.text (.slice [] (.paren [comment] (.form x.1) []))) =
        f.reading "a.go" (.array (.unsupported x.2)) := by
  intro f k comment t s
  have hrespelled : Respelled t s.expr := by
    have hcore : Respells t (.pointer (.slice (.paren (.qualified "sql" "Tx")))) :=
      .pointer (.slice (.wrap _))
    have hlength : Respells (.pointer (.slice (.paren (.qualified "sql" "Tx"))))
        (.pointer (.array (.paren (.qualified "sql" "Tx")))) := .pointer (.lengthen _)
    have harray : Respells (.pointer (.array (.paren (.qualified "sql" "Tx")))) s.expr :=
      .pointer (.wrap _)
    exact .trans _ _ _ (.rel _ _ hcore) (.trans _ _ _ (.rel _ _ hlength) (.rel _ _ harray))
  have hform : ∀ x : Form × UnsupportedKind, x.1.type.shape = .unsupported x.2 →
      SourceFile.parse "a.go" (f.text (.slice [] (.paren [comment] (.form x.1) []))) =
        f.reading "a.go" (.array (.unsupported x.2)) := by
    intro x hshape
    rw [← hshape]
    exact ((shape_of_spelling (.slice x.1.type)).2.2 _ (.rel _ _ (.slice (.wrap _)))).2 "a.go" f
  refine ⟨by decide, hrespelled, ((shape_of_spelling t).2.2 s hrespelled).2 "a.go" f, ?_⟩
  intro x hx
  simp only [List.mem_cons, List.not_mem_nil, or_false] at hx
  refine hform x ?_
  rcases hx with rfl | rfl | rfl | rfl | rfl | rfl <;> rfl

end Go
end RequiredArgs
