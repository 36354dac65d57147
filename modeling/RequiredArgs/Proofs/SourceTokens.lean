/-
# The tokens of printed source files

Each part of a printed file has its lexemes, and its text scans to them in front of everything that
can follow it (`Ty.scans`, `Entry.scans_list`, `Func.scans`, `Import.scans`, `File.scans_preamble`).
A parameter list is taken as a list of entries here, as its reader takes it: each name of a group
but the last is an entry of its own (`Params.chars_eq`).
-/

import RequiredArgs.Proofs.SourcePrinter
import RequiredArgs.Proofs.TokenCuts

namespace RequiredArgs
namespace Go
namespace Printed

open Lexeme Token

/-- A property of all ASCII characters, checked one by one. -/
theorem forall_ascii {P : Char → Prop} (h : ∀ n < 128, P (Char.ofNat n)) {c : Char}
    (hc : c.toNat < 128) : P c :=
  Char.ofNat_toNat c ▸ h c.toNat hc

/-- Letters and digits are ASCII. -/
theorem toNat_lt_of_isAlphanum {c : Char} (h : c.isAlphanum = true) : c.toNat < 128 := by
  have hranges : (decide (c.val ≥ 65 ∧ c.val ≤ 90) ||
      (decide (c.val ≥ 97) && decide (c.val ≤ 122)) ||
      (decide (c.val ≥ 48) && decide (c.val ≤ 57))) = true := h
  have hle : c.val ≤ 122 := by grind
  exact Nat.lt_of_le_of_lt (UInt32.le_iff_toNat_le.1 hle) (by decide)

/-- A letter starts a word. -/
theorem isIdentStart_of_isAlpha {c : Char} (hc : c.isAlpha = true) :
    Unicode.isIdentStart c = true := by
  have hascii : c.toNat < 128 := toNat_lt_of_isAlphanum (by simp [Char.isAlphanum, hc])
  simp [Unicode.isIdentStart, hascii, hc]

/-- The characters of a printed name go on with a word. -/
theorem isIdentContinue_of_isNameChar {c : Char} (hc : isNameChar c = true) :
    Unicode.isIdentContinue c = true := by
  have hascii : c.toNat < 128 := by
    rcases Bool.or_eq_true_iff.1 hc with h | h
    · exact toNat_lt_of_isAlphanum h
    · rw [beq_iff_eq.1 h]
      decide
  have hc' : (c.isAlphanum || c == '_') = true := hc
  simp only [Unicode.isIdentContinue, hascii, if_true, hc']

/-- A printed name is a word. -/
theorem Ident.isWordText_chars (i : Ident) : isWordText i.chars = true := by
  have htail := i.tail_isNameChar
  rw [List.all_eq_true] at htail
  simp only [chars, isWordText, isIdentStart_of_isAlpha i.head_isAlpha, Bool.true_and,
    List.all_eq_true]
  exact fun c hc => isIdentContinue_of_isNameChar (htail c hc)

/-- A name is one word in front of everything that does not go on with it. -/
theorem Ident.scans (i : Ident) {rest : List Char} (hrest : WordEnds rest) :
    Scans i.chars [.word i.text] rest :=
  .word i.isWordText_chars hrest

/-- A name starts with nothing but a letter. -/
theorem Ident.head_ne {i : Ident} {c : Char} (hc : c.isAlpha = false) : i.head ≠ c := by
  rintro rfl
  exact Bool.false_ne_true (hc.symm.trans i.head_isAlpha)

/-- No name starts with a digit, so that a point in front of one is not that of a number. -/
theorem Ident.head_not_isDigit (i : Ident) : i.head.isDigit = false := by
  have hascii : i.head.toNat < 128 :=
    toNat_lt_of_isAlphanum (by simp [Char.isAlphanum, i.head_isAlpha])
  exact forall_ascii (P := fun c => c.isAlpha = true → c.isDigit = false) (by decide +kernel)
    hascii i.head_isAlpha

/-- The lexemes of a type. -/
def Ty.lexemes : Ty → List Lexeme
  | name n => [.word n.text]
  | qualified q n => [.word q.text, .punct ".", .word n.text]
  | pointer t => .punct "*" :: t.lexemes
  | array t => .punct "[" :: .punct "]" :: t.lexemes

/-- No type starts with an equals sign, so that a star in front of one is an operator of its own. -/
theorem Ty.head?_chars_ne (t : Ty) (rest : List Char) : (t.chars ++ rest).head? ≠ some '=' := by
  cases t with
  | name n => simpa [chars, Ident.chars] using n.head_ne (by decide)
  | qualified q n => simpa [chars, Ident.chars] using q.head_ne (by decide)
  | pointer t => simp [chars]
  | array t => simp [chars]

/-- A type is cut into its lexemes, by induction on the type. -/
theorem Ty.scans (t : Ty) {rest : List Char} (hrest : WordEnds rest) :
    Scans t.chars t.lexemes rest := by
  induction t with
  | name n => exact n.scans hrest
  | qualified q n =>
    have hpoint : Scans ['.'] [.punct "."] (n.chars ++ rest) :=
      .of_cut (cut_point n.head_not_isDigit (n.head_ne (by decide)))
    exact (q.scans (.cons (by decide) _)).append (hpoint.append (n.scans hrest))
  | pointer t ih =>
    have hstar : Scans ['*'] [.punct "*"] (t.chars ++ rest) :=
      .of_cut (cut_star (t.head?_chars_ne rest))
    exact hstar.append ih
  | array t ih =>
    exact (Scans.bracket (by decide)).append ((Scans.bracket (by decide)).append ih)

/-- An entry of a parameter list. -/
inductive Entry where
  | bare (t : Ty)
  | named (n : Ident) (t : Ty)

namespace Entry

def chars : Entry → List Char
  | bare t => t.chars
  | named n t => n.chars ++ ' ' :: t.chars

def lexemes : Entry → List Lexeme
  | bare t => t.lexemes
  | named n t => .word n.text :: t.lexemes

/-- An entry is cut into its lexemes, a name and its type at the blank between them. -/
theorem scans (e : Entry) {rest : List Char} (hrest : WordEnds rest) :
    Scans e.chars e.lexemes rest := by
  cases e with
  | bare t => exact t.scans hrest
  | named n t =>
    exact (n.scans (.cons (by decide) _)).append (Scans.blank.append (t.scans hrest))

/-- The lexemes of entries with commas between them. -/
def listLexemes (es : List Entry) : List Lexeme := [.punct ","].intercalate (es.map lexemes)

/-- The entries of a list are cut into theirs, with a comma between any two. -/
theorem scans_list (es : List Entry) (rest : List Char) :
    Scans (joined (es.map chars)) (listLexemes es) (')' :: rest) := by
  induction es with
  | nil => exact .nil
  | cons e es ih =>
    cases es with
    | nil =>
      simp only [joined, listLexemes, List.map_cons, List.map_nil, List.intercalate_singleton]
      exact e.scans (.cons (by decide) _)
    | cons e' es =>
      have hsep : ∀ cs, Scans [',', ' '] [.punct ","] cs := fun cs =>
        (Scans.bracket (by decide)).append .blank
      simp only [joined, listLexemes, List.map_cons, List.intercalate_cons_cons] at ih ⊢
      exact ((e.scans (.cons (by decide) _)).append (hsep _)).append ih

end Entry

/-- Each name in front of the last is an entry of its own. -/
def Group.entries (g : Group) : List Entry :=
  (g.init.map fun n => .bare (.name n)) ++ [.named g.last g.type]

def Params.entries : Params → List Entry
  | named gs => gs.flatMap Group.entries
  | unnamed ts => ts.map .bare

/-- Two lists that are joined have one separator between them. -/
theorem joined_append {xs ys : List (List Char)} (hx : xs ≠ []) (hy : ys ≠ []) :
    joined (xs ++ ys) = joined xs ++ [',', ' '] ++ joined ys := by
  induction xs with
  | nil => exact absurd rfl hx
  | cons x xs ih =>
    cases xs with
    | nil =>
      obtain ⟨y, ys, rfl⟩ := List.exists_cons_of_ne_nil hy
      simp [joined]
    | cons x' xs =>
      have := ih (List.cons_ne_nil _ _)
      simp_all [joined]

/-- Joining the parts of each member and then the members is joining all parts. -/
theorem joined_flatMap {α : Type} {f : α → List (List Char)} (hf : ∀ a, f a ≠ []) (as : List α) :
    joined (as.flatMap f) = joined (as.map fun a => joined (f a)) := by
  induction as with
  | nil => rfl
  | cons a as ih =>
    cases as with
    | nil => simp [joined]
    | cons a' as =>
      have hne : (a' :: as).flatMap f ≠ [] := by simp [hf]
      rw [List.flatMap_cons, joined_append (hf a) hne, ih]
      simp [joined]

/-- What stands behind the last member stands behind the joined text. -/
theorem joined_concat (xs : List (List Char)) (y z : List Char) :
    joined (xs ++ [y ++ z]) = joined (xs ++ [y]) ++ z := by
  cases xs with
  | nil => simp [joined]
  | cons x xs =>
    rw [joined_append (List.cons_ne_nil _ _) (List.cons_ne_nil _ _),
      joined_append (List.cons_ne_nil _ _) (List.cons_ne_nil _ _)]
    simp [joined]

/-- A group is printed as its entries: the names, the last of them with the type. -/
theorem Group.chars_eq (g : Group) : g.chars = joined (g.entries.map Entry.chars) := by
  simp only [chars, names, entries, List.map_append, List.map_map, List.map_cons, List.map_nil,
    Function.comp_def, Entry.chars, Ty.chars, joined_concat]

/-- Parameters are printed as their entries. -/
theorem Params.chars_eq (p : Params) : p.chars = joined (p.entries.map Entry.chars) := by
  cases p with
  | named gs =>
    have hne : ∀ g : Group, g.entries.map Entry.chars ≠ [] := by simp [Group.entries]
    simp only [chars, entries, List.map_flatMap, joined_flatMap hne, ← Group.chars_eq]
  | unnamed ts => simp [chars, entries, Entry.chars, Function.comp_def]

/-- The receiver is a parameter list with one entry. -/
def Receiver.entry (r : Receiver) : Entry := .named r.name r.toGroup.type

def Receiver.lexemes (r : Receiver) : List Lexeme :=
  .punct "(" :: r.entry.lexemes ++ [.punct ")"]

/-- A receiver is printed as one entry in parentheses. -/
theorem Receiver.chars_eq (r : Receiver) : r.chars = '(' :: r.entry.chars ++ [')', ' '] := by
  simp [chars, Group.chars, Group.names, Receiver.toGroup, joined, entry, Entry.chars]

/-- A receiver is cut into its lexemes. -/
theorem Receiver.scans (r : Receiver) (rest : List Char) : Scans r.chars r.lexemes rest := by
  have hclose : Scans [')', ' '] [.punct ")"] rest :=
    (Scans.bracket (by decide)).append .blank
  rw [chars_eq]
  exact ((Scans.bracket (by decide)).append (r.entry.scans (.cons (by decide) _))).append hclose

def Func.receiverLexemes : Option Receiver → List Lexeme
  | some r => r.lexemes
  | none => []

/-- The lexemes of a declaration between its keyword and the line end. -/
def Func.lexemes (d : Func) : List Lexeme :=
  receiverLexemes d.receiver ++ .word d.name.text :: .punct "(" ::
    Entry.listLexemes d.params.entries ++ [.punct ")", .punct "\x7b", .punct "\x7d"]

/-- A declaration without a receiver has no lexemes in its place. -/
theorem Func.scans_receiver (r : Option Receiver) (rest : List Char) :
    Scans (receiverChars r) (receiverLexemes r) rest := by
  cases r with
  | none => exact .nil
  | some r => exact r.scans rest

/-- A declaration is cut into its lexemes, from behind its keyword on. -/
theorem Func.scans (d : Func) (rest : List Char) : Scans d.body d.lexemes rest := by
  have hend : Scans [')', ' ', '\x7b', '\x7d'] [.punct ")", .punct "\x7b", .punct "\x7d"] rest :=
    (Scans.bracket (by decide)).append (Scans.blank.append
      ((Scans.bracket (by decide)).append (.bracket (by decide))))
  have hparams := (Entry.scans_list d.params.entries (' ' :: '\x7b' :: '\x7d' :: rest)).append hend
  have hname := (d.name.scans (.cons (by decide) _)).append
    ((Scans.bracket (c := '(') (p := "(") (by decide)).append hparams)
  have hbody := Scans.blank.append ((Func.scans_receiver d.receiver _).append hname)
  simpa only [body, lexemes, d.params.chars_eq, List.append_assoc, List.cons_append,
    List.nil_append] using hbody

/-- A declaration is cut into its keyword, its own lexemes and a line end. -/
theorem Func.cut_chars (d : Func) (offset : Nat) (rest : List Char) :
    ∃ ts k, ts.map (·.lexeme) = d.lexemes ∧ cut offset (d.chars ++ rest) =
      ⟨.word "func", offset⟩ :: (ts ++ ⟨.newline, k⟩ :: cut (offset + byteSize d.chars) rest) := by
  have hword : WordEnds (d.body ++ '\n' :: rest) := .cons (by decide) _
  obtain ⟨ts, hts, hbody⟩ := d.scans ('\n' :: rest) (offset + byteSize "func".toList)
  have hsize : offset + byteSize d.chars =
      offset + byteSize "func".toList + byteSize d.body + 1 := by
    rw [chars, byteSize_append, byteSize_append, ← Nat.add_assoc, ← Nat.add_assoc]
    rfl
  refine ⟨ts, offset + byteSize "func".toList + byteSize d.body, hts, ?_⟩
  calc cut offset (d.chars ++ rest)
      = cut offset ("func".toList ++ (d.body ++ '\n' :: rest)) := by
        rw [chars, List.append_assoc, List.append_assoc, List.singleton_append]
    _ = ⟨.word "func", offset⟩ ::
          cut (offset + byteSize "func".toList) (d.body ++ '\n' :: rest) := by
        rw [cut_word (by decide) hword, String.ofList_toList]
    _ = _ := by rw [hbody, cut_newline, hsize]

/-- The name in front of an import path. -/
def Import.nameLexemes : Option ImportName → List Lexeme
  | some (.ident i) => [.word i.text]
  | some .blank => [.word "_"]
  | some .dot => [.punct "."]
  | none => []

def Import.lexemes (i : Import) : List Lexeme :=
  nameLexemes i.name ++ [.str (.ofList i.path.quoted), .newline]

/-- The name of an import is a word, an underscore or a point, or it is left out. -/
theorem Import.scans_name (n : Option ImportName) (rest : List Char) :
    Scans (nameChars n) (nameLexemes n) rest := by
  have hends : WordEnds ([' '] ++ rest) := .cons (by decide) _
  rcases n with _ | i | _ | _
  · exact .nil
  · exact (i.scans hends).append .blank
  · exact (Scans.word (a := ['_']) (by decide) hends).append .blank
  · have hpoint : Scans ['.'] [.punct "."] ([' '] ++ rest) :=
      .of_cut (cut_point (by decide) (by decide))
    exact hpoint.append .blank

/-- A path is made of the characters that paths are made of. -/
theorem ImportPath.isPathChar_of_mem {p : ImportPath} {c : Char} (hc : c ∈ p.chars) :
    isPathChar c = true := by
  rcases List.mem_cons.1 hc with rfl | hc
  · simp [isPathChar, Char.isAlphanum, p.head_isAlpha]
  · exact List.all_eq_true.1 p.tail_isPathChar c hc

/-- The characters of paths are ASCII. -/
theorem toNat_lt_of_isPathChar {c : Char} (hc : isPathChar c = true) : c.toNat < 128 := by
  simp only [isPathChar, Bool.or_eq_true, beq_iff_eq] at hc
  rcases hc with (((hc | rfl) | rfl) | rfl) | rfl
  · exact toNat_lt_of_isAlphanum hc
  all_goals decide

/-- No character of a path ends a string or escapes one. -/
theorem ImportPath.isPlainChar_chars (p : ImportPath) : p.chars.all isPlainChar = true := by
  refine List.all_eq_true.2 fun c hc => ?_
  have hpath := p.isPathChar_of_mem hc
  exact forall_ascii (P := fun c => isPathChar c = true → isPlainChar c = true)
    (by decide +kernel) (toNat_lt_of_isPathChar hpath) hpath

/-- An import is cut into its lexemes, its path as one string with its quotation marks. -/
theorem Import.scans (i : Import) (rest : List Char) : Scans i.chars i.lexemes rest := by
  have hpath : Scans i.path.quoted [.str (.ofList i.path.quoted)] ('\n' :: rest) :=
    .of_cut fun offset => cut_string i.path.isPlainChar_chars offset _
  have hall := ((Scans.space (c := '\t') (by decide)).append (Import.scans_name i.name _)).append
    (hpath.append .newline)
  simpa only [chars, lexemes, List.append_assoc, List.cons_append, List.nil_append] using hall

/-- The imports of a block are cut into theirs, line by line. -/
theorem Import.scans_list (is : List Import) (rest : List Char) :
    Scans (is.flatMap chars) (is.flatMap lexemes) rest := by
  induction is with
  | nil => exact .nil
  | cons i is ih => exact (i.scans _).append ih

/-- The lexemes of the import block behind its keyword. -/
def File.blockLexemes (f : File) : List Lexeme :=
  .punct "(" :: .newline :: (f.imports.flatMap Import.lexemes ++ [.punct ")", .newline, .newline])

/-- The lexemes of the preamble. -/
def File.preambleLexemes (f : File) : List Lexeme :=
  .word "package" :: .word f.package.text :: .newline :: .newline :: .word "import" ::
    f.blockLexemes

/-- The package clause and the import block are cut into their lexemes. -/
theorem File.scans_preamble (f : File) (rest : List Char) :
    Scans f.preamble f.preambleLexemes rest := by
  have hend : Scans [')', '\n', '\n'] [.punct ")", .newline, .newline] rest :=
    (Scans.bracket (by decide)).append (Scans.newline.append .newline)
  have hblock : Scans f.importBlock f.blockLexemes rest :=
    (Scans.blank.append ((Scans.bracket (by decide)).append .newline)).append
      ((Import.scans_list f.imports _).append hend)
  have himport := Scans.keyword (w := "import") (by decide) (by decide) hblock
  have hpackage := (f.package.scans (.cons (by decide) _)).append
    (Scans.newline.append (Scans.newline.append himport))
  exact Scans.keyword (by decide) (by decide) (Scans.blank.append hpackage)

end Printed
end Go
end RequiredArgs
