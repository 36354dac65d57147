/-
# Reading back printed files

The text of a printed file is read without errors, and what is read is the file: its imports give
the same table as their paths and names added in order, and its declarations come back in order,
with name, receiver, parameters and the place at which they stand (`Printed.parse_text`). The one
exception is a type with more than nine names: the names in front of the last nine come back as
unnamed parameters. So a file comes back as it was written exactly if none of its types has more
names than that (`Printed.parse_text_eq_iff`).
-/

import RequiredArgs.Proofs.DeclarationReading
import RequiredArgs.Proofs.StrippedText

namespace RequiredArgs
namespace Go

open Phrase (skipLines)
open Token (cut exists_of_map_lexeme)

/-- Line ends between items are passed over. -/
@[simp] theorem readItems_newline (fuel k : Nat) (ts : List Token) :
    readItems (fuel + 1) (⟨.newline, k⟩ :: ts) = readItems (fuel + 1) ts := by
  rw [readItems, readItems, skipLines_newline]

/-- An item that a line end follows is read, and then the items behind it. -/
theorem readItems_cons {t : Token} {us more : List Token} {items : List Item} {k : Nat}
    (fuel : Nat) (ht : t.lexeme ≠ .newline)
    (hitem : readItem t (us ++ ⟨.newline, k⟩ :: more) = { items, rest := ⟨.newline, k⟩ :: more }) :
    readItems (fuel + 1) (t :: (us ++ ⟨.newline, k⟩ :: more)) =
      (items ++ (readItems fuel more).1, (readItems fuel more).2) := by
  have hskip : skipLines (t :: (us ++ ⟨.newline, k⟩ :: more)) =
      t :: (us ++ ⟨.newline, k⟩ :: more) := by
    simp [skipLines, ht]
  have hlength : (us ++ ⟨.newline, k⟩ :: more).length -
      (⟨.newline, k⟩ :: more : List Token).length = us.length := by
    simp
  rw [readItems, hskip]
  simp only [hitem, hlength, List.drop_left]
  simp [passEnd, Symbol.isTerminator]

namespace Printed

/-- The items of declarations that follow each other from byte `offset` on. -/
def Func.items (offset : Nat) : List Func → List Item
  | [] => []
  | d :: ds => d.item offset :: items (offset + byteSize d.chars) ds

/-- The declarations of a printed file are read back one by one, without errors, by induction on the
declarations. -/
theorem readItems_funcs (ds : List Func) {fuel offset : Nat}
    (hfuel : (cut offset (ds.flatMap Func.chars)).length ≤ fuel) :
    readItems (fuel + 1) (cut offset (ds.flatMap Func.chars)) = (Func.items offset ds, true) := by
  induction ds generalizing fuel offset with
  | nil => rfl
  | cons d ds ih =>
    obtain ⟨ts, k, hts, hcut⟩ := d.cut_chars offset (ds.flatMap Func.chars)
    rw [List.flatMap_cons, hcut] at hfuel ⊢
    obtain ⟨fuel, rfl⟩ := Nat.exists_eq_add_one_of_ne_zero (n := fuel) (by simp at hfuel; omega)
    have hrest : (cut (offset + byteSize d.chars) (ds.flatMap Func.chars)).length ≤ fuel := by
      simp at hfuel
      omega
    rw [readItems_cons _ (by simp) (readItem_func d hts offset _), ih hrest]
    rfl

/-- The import block is read up to the line ends behind it. -/
theorem importDecl?_tokens (f : File) {ts : List Token}
    (hts : ts.map (·.lexeme) = f.blockLexemes) :
    ∃ us k k', ts = us ++ [⟨.newline, k⟩, ⟨.newline, k'⟩] ∧ ∀ more,
      importDecl? (us ++ ⟨.newline, k⟩ :: more) =
        some (f.imports.map Import.item, ⟨.newline, k⟩ :: more) := by
  obtain ⟨o, vs, rfl, hvs⟩ := exists_of_map_lexeme hts
  obtain ⟨k₀, xs, rfl, hxs⟩ := exists_of_map_lexeme hvs
  obtain ⟨ys, zs, rfl, hys, hzs⟩ := List.map_eq_append_iff.1 hxs
  obtain ⟨o', as, rfl, has⟩ := exists_of_map_lexeme hzs
  obtain ⟨k, bs, rfl, hbs⟩ := exists_of_map_lexeme has
  obtain ⟨k', cs, rfl, hcs⟩ := exists_of_map_lexeme hbs
  obtain rfl := List.map_eq_nil_iff.1 hcs
  refine ⟨⟨.punct "(", o⟩ :: ⟨.newline, k₀⟩ :: (ys ++ [⟨.punct ")", o'⟩]), k, k', by simp, ?_⟩
  intro more
  have hspecs := importSpecs?_tokens f.imports (more.length + 3) o' hys (⟨.newline, k⟩ :: more)
  have hlength : (ys ++ ⟨.punct ")", o'⟩ :: ⟨.newline, k⟩ :: more).length + 1 + 1 =
      more.length + 3 + ys.length + 1 := by
    simp
    omega
  simp only [List.cons_append, List.append_assoc, List.nil_append, importDecl?, expect?_punct,
    if_true, List.length_cons, importSpecs?_newline] at hlength ⊢
  rw [hlength, hspecs]

/-- The package clause gives no item and the import block gives the imports; the declarations
follow. -/
theorem readItems_preamble (f : File) {ts : List Token}
    (hts : ts.map (·.lexeme) = f.preambleLexemes) (fuel : Nat) (more : List Token) :
    readItems (fuel + 3) (ts ++ more) =
      (f.imports.map Import.item ++ (readItems (fuel + 1) more).1,
        (readItems (fuel + 1) more).2) := by
  obtain ⟨o₁, us₁, rfl, h₁⟩ := exists_of_map_lexeme hts
  obtain ⟨o₂, us₂, rfl, h₂⟩ := exists_of_map_lexeme h₁
  obtain ⟨k₁, us₃, rfl, h₃⟩ := exists_of_map_lexeme h₂
  obtain ⟨k₂, us₄, rfl, h₄⟩ := exists_of_map_lexeme h₃
  obtain ⟨o₃, us₅, rfl, h₅⟩ := exists_of_map_lexeme h₄
  obtain ⟨us, k, k', rfl, himports⟩ := importDecl?_tokens f h₅
  have hpackage : readItem ⟨.word "package", o₁⟩ ([⟨.word f.package.text, o₂⟩] ++
      ⟨.newline, k₁⟩ :: ⟨.newline, k₂⟩ :: ⟨.word "import", o₃⟩ ::
        (us ++ ⟨.newline, k⟩ :: ⟨.newline, k'⟩ :: more)) =
      { items := [], rest := ⟨.newline, k₁⟩ :: ⟨.newline, k₂⟩ :: ⟨.word "import", o₃⟩ ::
        (us ++ ⟨.newline, k⟩ :: ⟨.newline, k'⟩ :: more) } :=
    rfl
  have himport : readItem ⟨.word "import", o₃⟩ (us ++ ⟨.newline, k⟩ :: ⟨.newline, k'⟩ :: more) =
      { items := f.imports.map Import.item, rest := ⟨.newline, k⟩ :: ⟨.newline, k'⟩ :: more } := by
    simp [readItem, himports]
  have hclause := readItems_cons (fuel + 2) (by simp) hpackage
  have hblock := readItems_cons (fuel + 1) (by simp) himport
  rw [readItems_newline] at hblock
  rw [readItems_newline, hblock] at hclause
  simpa using hclause

/-- A printed file has no byte order mark, so its tokens are cut from its first byte on. -/
theorem File.significant_ofText (f : File) :
    Token.significant (Token.ofText f.chars) = cut 0 f.chars := by
  obtain ⟨rest, hrest⟩ : ∃ rest, f.chars = 'p' :: rest := ⟨_, rfl⟩
  rw [hrest, Token.ofText, if_neg (by decide)]
  rfl

/-- The items of a printed file, which is free of errors. -/
theorem readItems_file (f : File) :
    readItems ((cut 0 f.chars).length + 1) (cut 0 f.chars) =
      (f.imports.map Import.item ++ Func.items (byteSize f.preamble) f.functions, true) := by
  obtain ⟨ts, hts, hcut⟩ := f.scans_preamble (f.functions.flatMap Func.chars) 0
  rw [Nat.zero_add] at hcut
  have hlength : 2 < ts.length := by
    rw [← List.length_map (f := (·.lexeme)), hts]
    simp [File.preambleLexemes]
  have hfuel : ∀ m, ts.length + m + 1 = ts.length + m - 2 + 3 := fun m => by omega
  rw [File.chars, hcut, List.length_append, hfuel, readItems_preamble f hts,
    readItems_funcs f.functions (by omega)]

/-- No character of a path is white space or a quotation mark. -/
theorem not_isBlank_of_isPathChar {c : Char} (hc : isPathChar c = true) :
    Text.isBlank c = false ∧ isQuoteMark c = false :=
  forall_ascii (P := fun c => isPathChar c = true → Text.isBlank c = false ∧ isQuoteMark c = false)
    (by decide +kernel) (toNat_lt_of_isPathChar hc) hc

/-- A path is left as it is, since there is nothing to take off. -/
theorem ImportPath.unquotePath_text (p : ImportPath) : unquotePath p.text = p.text := by
  have hblank : ∀ c ∈ p.chars, Text.isBlank c = false := fun c hc =>
    (not_isBlank_of_isPathChar (p.isPathChar_of_mem hc)).1
  have hquote : ∀ c ∈ p.chars, isQuoteMark c = false := fun c hc =>
    (not_isBlank_of_isPathChar (p.isPathChar_of_mem hc)).2
  rw [unquotePath, text, String.toList_ofList, Text.stripWhile_eq_self hblank,
    Text.stripWhile_eq_self hquote]

/-- The quotation marks of a printed path are taken off. -/
theorem ImportPath.unquotePath_quoted (p : ImportPath) :
    unquotePath (.ofList p.quoted) = p.text := by
  have hblank : ∀ c ∈ p.quoted, Text.isBlank c = false := by
    intro c hc
    simp only [quoted, List.mem_cons, List.mem_append, List.not_mem_nil, or_false] at hc
    rcases hc with rfl | hc | rfl
    · decide
    · exact (not_isBlank_of_isPathChar (p.isPathChar_of_mem hc)).1
    · decide
  have hquote : ∀ c ∈ p.chars, isQuoteMark c = false := fun c hc =>
    (not_isBlank_of_isPathChar (p.isPathChar_of_mem hc)).2
  have hmark : ∀ c ∈ ['"'], isQuoteMark c = true := List.forall_mem_singleton.2 rfl
  have hstrips : Text.Strips isQuoteMark p.quoted p.chars := Text.strips_around hquote hmark hmark
  rw [unquotePath, String.toList_ofList, Text.stripWhile_eq_self hblank, hstrips.eq, text]

/-- Quotation marks around a path do not change what is recorded. -/
theorem ofList_importsOf (is : List Import) :
    ImportTable.ofList (importsOf (is.map Import.item)) = .ofList (is.map Import.entry) := by
  have hadd : ∀ (t : ImportTable) (i : Import),
      t.add (.ofList i.path.quoted) (i.name.map ImportName.text) = t.add i.entry.1 i.entry.2 := by
    intro t i
    simp [ImportTable.add, ImportTable.recorded?, Import.entry, i.path.unquotePath_quoted,
      i.path.unquotePath_text]
  have hitems : importsOf (is.map Import.item) =
      is.map fun i => (.ofList i.path.quoted, i.name.map ImportName.text) := by
    simp [importsOf, Import.item, List.filterMap_map, Function.comp_def]
  rw [hitems, ImportTable.ofList, ImportTable.ofList, List.foldl_map, List.foldl_map]
  simp only [hadd]

/-- The site behind a text that ends with a line end. -/
theorem siteOf_append {before : List Char} (hlast : before.getLast? = some '\n')
    (rest : List Char) :
    siteOf (before ++ rest) (byteSize before) =
      { line := .ofNat (1 + before.count '\n')
        column := 1
        offset := .ofNat (byteSize before) } := by
  obtain ⟨line, rfl⟩ := List.getLast?_eq_some_iff.1 hlast
  rw [siteOf, takeBytes_append]
  simp

/-- No line ends inside a name. -/
theorem Ident.newline_not_mem (i : Ident) : '\n' ∉ i.chars := by
  intro h
  rcases List.mem_cons.1 h with h | h
  · exact i.head_ne (by decide) h.symm
  · exact absurd (List.all_eq_true.1 i.tail_isNameChar _ h) (by decide)

/-- No line ends inside a type. -/
theorem Ty.newline_not_mem (t : Ty) : '\n' ∉ t.chars := by
  induction t with
  | name n => exact n.newline_not_mem
  | qualified q n => simp [chars, q.newline_not_mem, n.newline_not_mem]
  | pointer t ih => simpa [chars] using ih
  | array t ih => simpa [chars] using ih

/-- No line ends inside an entry. -/
theorem Entry.newline_not_mem (e : Entry) : '\n' ∉ e.chars := by
  cases e with
  | bare t => exact t.newline_not_mem
  | named n t => simp [chars, n.newline_not_mem, t.newline_not_mem]

/-- Entries are joined without a line end. -/
theorem newline_not_mem_joined {xs : List (List Char)} (h : ∀ x ∈ xs, '\n' ∉ x) :
    '\n' ∉ joined xs := by
  induction xs with
  | nil => simp [joined]
  | cons x xs ih =>
    cases xs with
    | nil => simpa [joined] using h
    | cons y xs =>
      have hx := h x List.mem_cons_self
      have htail := ih fun z hz => h z (List.mem_cons_of_mem _ hz)
      simp_all [joined]

/-- A declaration is one line. -/
theorem Func.newline_not_mem_body (d : Func) : '\n' ∉ d.body := by
  have hparams : '\n' ∉ d.params.chars := by
    rw [d.params.chars_eq]
    refine newline_not_mem_joined ?_
    simp [Entry.newline_not_mem]
  have hreceiver : '\n' ∉ receiverChars d.receiver := by
    cases d.receiver with
    | none => simp [receiverChars]
    | some r => simp [receiverChars, r.chars_eq, Entry.newline_not_mem]
  simp [body, hparams, hreceiver, d.name.newline_not_mem]

/-- A declaration has one line end, behind it. -/
theorem Func.count_newline (d : Func) : d.chars.count '\n' = 1 := by
  rw [chars, List.count_append, List.count_append, List.count_eq_zero.2 d.newline_not_mem_body]
  rfl

/-- An import has one line end, behind it. -/
theorem Import.count_newline (i : Import) : i.chars.count '\n' = 1 := by
  have hpath : '\n' ∉ i.path.chars := fun h =>
    absurd (i.path.isPathChar_of_mem h) (by decide)
  have hname : '\n' ∉ nameChars i.name := by
    rcases i.name with _ | n | _ | _
    · simp [nameChars]
    · simp [nameChars, ImportName.chars, n.newline_not_mem]
    all_goals decide
  have hline : '\n' ∉ '\t' :: nameChars i.name ++ i.path.quoted := by
    simp [ImportPath.quoted, hname, hpath]
  rw [chars, List.count_append, List.count_eq_zero.2 hline]
  rfl

/-- Imports take one line each. -/
theorem Import.count_newline_list (is : List Import) :
    (is.flatMap Import.chars).count '\n' = is.length := by
  induction is with
  | nil => rfl
  | cons i is ih =>
    rw [List.flatMap_cons, List.count_append, i.count_newline, ih, List.length_cons, Nat.add_comm]

/-- The import block has a line for each import and three more. -/
theorem File.count_newline_importBlock (f : File) :
    f.importBlock.count '\n' = f.imports.length + 3 := by
  simp [importBlock, Import.count_newline_list]

/-- The preamble has a line for each import and five more. -/
theorem File.count_newline_preamble (f : File) : f.preamble.count '\n' = f.imports.length + 5 := by
  have hname := List.count_eq_zero.2 f.package.newline_not_mem
  -- the keywords as variables: `simp` would spell out the literals
  have hlines : ∀ p i : List Char, p.count '\n' = 0 → i.count '\n' = 0 →
      (p ++ ' ' :: (f.package.chars ++ '\n' :: '\n' :: (i ++ f.importBlock))).count '\n' =
        f.imports.length + 5 := by
    intro p i hp hi
    simp [hp, hi, hname, f.count_newline_importBlock]
  exact hlines "package".toList "import".toList (by decide) (by decide)

/-- The first declaration stands at the start of a line. -/
theorem File.getLast?_preamble (f : File) : f.preamble.getLast? = some '\n' := by
  have hends : ∀ cs ds : List Char, (cs ++ ' ' :: (f.package.chars ++ '\n' :: '\n' ::
      (ds ++ f.importBlock))).getLast? = some '\n' := by
    intro cs ds
    refine List.getLast?_eq_some_iff.2 ⟨cs ++ ' ' :: (f.package.chars ++ '\n' :: '\n' :: (ds ++
      ' ' :: '(' :: '\n' :: (f.imports.flatMap Import.chars ++ [')', '\n']))), ?_⟩
    simp [importBlock]
  exact hends "package".toList "import".toList

/-- Every declaration stands at the start of a line of its own. -/
theorem functionsOf_items (ds : List Func) {before : List Char}
    (hlast : before.getLast? = some '\n') :
    functionsOf (before ++ ds.flatMap Func.chars) (Func.items (byteSize before) ds) =
      Func.decls Params.kept (before.count '\n' + 1) (byteSize before) ds := by
  induction ds generalizing before with
  | nil => rfl
  | cons d ds ih =>
    have hlast' : (before ++ d.chars).getLast? = some '\n' := by
      rw [Func.chars, ← List.append_assoc, ← List.append_assoc, List.getLast?_concat]
    have hrest := ih hlast'
    rw [byteSize_append, List.count_append, d.count_newline, List.append_assoc] at hrest
    have hsite := siteOf_append hlast (d.chars ++ ds.flatMap Func.chars)
    rw [List.flatMap_cons, Func.decls, ← hrest, Func.items]
    simp [functionsOf, Func.item, Func.decl, hsite, toGroup_group, receiverOf_receiverParams,
      Nat.add_comm]

/-- Declarations add nothing to the imports. -/
theorem importsOf_items (is : List Import) (offset : Nat) (ds : List Func) :
    importsOf (is.map Import.item ++ Func.items offset ds) = importsOf (is.map Import.item) := by
  have hnone : importsOf (Func.items offset ds) = [] := by
    induction ds generalizing offset with
    | nil => rfl
    | cons d ds ih => exact ih _
  rw [importsOf, List.filterMap_append]
  exact (congrArg _ hnone).trans (List.append_nil _)

/-- Imports add nothing to the declarations. -/
theorem functionsOf_append (text : List Char) (is : List Import) (items : List Item) :
    functionsOf text (is.map Import.item ++ items) = functionsOf text items := by
  induction is with
  | nil => rfl
  | cons i is ih => exact ih

/-- **What is printed is read back**, with nine names at most for each type. -/
theorem parse_text (path : String) (f : File) :
    SourceFile.parse path f.text = f.reading Params.kept path := by
  have hfunctions := functionsOf_items f.functions f.getLast?_preamble
  rw [f.count_newline_preamble, ← File.chars] at hfunctions
  simp only [SourceFile.parse, File.text, String.toList_ofList, f.significant_ofText,
    readItems_file, importsOf_items, ofList_importsOf, functionsOf_append, hfunctions]
  rfl

/-- A group with at most nine names is kept as it is. -/
theorem Group.kept_of_le {g : Group} (h : g.names.length ≤ 9) : g.kept = [g.group] := by
  rw [kept, Nat.sub_eq_zero_of_le h]
  rfl

/-- A group with more names starts, as it is kept, with an unnamed parameter. -/
theorem Group.kept_of_lt {g : Group} (h : 9 < g.names.length) :
    ∃ shape rest, g.kept = { names := [], shape } :: rest := by
  obtain ⟨n, ns, hns⟩ : ∃ n ns, g.names.take (g.names.length - 9) = n :: ns :=
    List.exists_cons_of_ne_nil (by simp [← List.length_pos_iff]; omega)
  rw [kept, hns]
  exact ⟨_, _, rfl⟩

/-- Parameters are kept as they are exactly if no type has more than nine names. -/
theorem Params.kept_eq_groups_iff (p : Params) : p.kept = p.groups ↔ p.AtMostNineNames := by
  cases p with
  | unnamed ts => simp [kept, groups, AtMostNineNames]
  | named gs =>
    induction gs with
    | nil => simp [kept, groups, AtMostNineNames]
    | cons g gs ih =>
      simp only [kept, groups, AtMostNineNames, List.flatMap_cons, List.map_cons,
        List.forall_mem_cons] at ih ⊢
      by_cases hg : g.names.length ≤ 9
      · rw [Group.kept_of_le hg, List.singleton_append, List.cons_inj_right, ih]
        simp [hg]
      · obtain ⟨shape, rest, hkept⟩ := Group.kept_of_lt (Nat.lt_of_not_le hg)
        have hnames : g.group.names ≠ [] := by simp [Group.group, Group.names]
        refine iff_of_false (fun h => ?_) fun h => hg h.1
        rw [hkept] at h
        exact hnames (congrArg ParamGroup.names (List.cons.inj h).1).symm

/-- Two ways of keeping parameters give the same declarations exactly if they agree on each of them;
lines and bytes do not depend on it. -/
theorem Func.decls_eq_iff {keep keep' : Params → List ParamGroup} (ds : List Func)
    (line offset : Nat) : decls keep line offset ds = decls keep' line offset ds ↔
      ∀ d ∈ ds, keep d.params = keep' d.params := by
  induction ds generalizing line offset with
  | nil => simp [decls]
  | cons d ds ih => simp [decls, decl, ih]

/-- **When a file comes back as it was written.** The text of a printed file always gives the file,
with nine names at most for each type; it gives the file itself exactly if no type has more. -/
theorem parse_text_eq_iff (path : String) (f : File) :
    SourceFile.parse path f.text = f.reading Params.kept path ∧
      (SourceFile.parse path f.text = f.reading Params.groups path ↔
        ∀ d ∈ f.functions, d.params.AtMostNineNames) := by
  refine ⟨parse_text path f, ?_⟩
  simp [parse_text, File.reading, Func.decls_eq_iff, Params.kept_eq_groups_iff]

end Printed
end Go
end RequiredArgs
