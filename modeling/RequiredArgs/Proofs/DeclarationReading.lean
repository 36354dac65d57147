/-
# Reading printed declarations

What the readers make of tokens with the lexemes of a printed type, parameter list, function header
or import. Each statement is about tokens in front of arbitrary further ones: `typeExpr?` reads the
type and leaves those (`typeExpr?_tokens`), and so on up to a whole declaration (`readItem_func`)
and the imports of a block (`importSpecs?_tokens`).

In a parameter list names and types look alike until a type follows a name. The entries are read one
by one, and then joined with the types behind them, eight bare names at most with each
(`toGroup_group`).
-/

import RequiredArgs.Proofs.SourceTokens

namespace RequiredArgs
namespace Go

open Phrase (skipLines)

section Reading

variable {ts : List Token} {p q w : String} {o o' : Nat}

/-- A word is not skipped. -/
@[simp] theorem skipLines_word : skipLines (⟨.word w, o⟩ :: ts) = ⟨.word w, o⟩ :: ts := rfl

/-- An operator is not skipped. -/
@[simp] theorem skipLines_punct : skipLines (⟨.punct p, o⟩ :: ts) = ⟨.punct p, o⟩ :: ts := rfl

/-- A line end in front is skipped, and the rest is as it was. -/
@[simp] theorem skipLines_newline : skipLines (⟨.newline, o⟩ :: ts) = skipLines ts := rfl

/-- A word is no operator. -/
@[simp] theorem expect?_word : expect? p (⟨.word w, o⟩ :: ts) = none := rfl

/-- An operator is the one that is asked for or another. -/
@[simp] theorem expect?_punct :
    expect? p (⟨.punct q, o⟩ :: ts) = if q = p then some ts else none := by
  simp [expect?]

/-- Without a bracket there are no type arguments. -/
theorem genericSuffix_inner (base : TypeExpr) (h : expect? "[" ts = none) :
    genericSuffix .inner base ts = (base, ts) := by
  have hnone : (Symbol.typeArguments .inner).rests Symbol.rests ts = [] := by
    cases hskip : skipLines ts with
    | nil =>
      simp [Symbol.typeArguments, Phrase.all, Phrase.rests, Symbol.goOn, Place.inner, hskip]
    | cons t rest =>
      have ht : t.lexeme ≠ .punct "[" := by simpa [expect?, hskip] using h
      simp [Symbol.typeArguments, Phrase.all, Phrase.rests, Symbol.goOn, Place.inner, hskip,
        Symbol.isPunct, ht]
  rw [genericSuffix, hnone]

/-- A word with neither type arguments nor a point behind it is a name. -/
theorem namedType_name (h : expect? "[" ts = none) (hpoint : expect? "." ts = none) :
    namedType .inner w ts = (.name w, ts) := by
  rw [← genericSuffix_inner (.name w) h]
  simp only [namedType, Place.inner, Bool.false_eq_true, if_false]
  split
  · rename_i o rest hskip
    simp [expect?, hskip] at hpoint
  · rfl

/-- Two words with a point between them are a qualified name. -/
theorem namedType_qualified {n : String} (h : expect? "[" ts = none) :
    namedType .inner w (⟨.punct ".", o⟩ :: ⟨.word n, o'⟩ :: ts) = (.qualified w n, ts) := by
  rw [← genericSuffix_inner (.qualified w n) h]
  simp [namedType, Place.inner]

variable {fuel : Nat} {c : Place}

/-- A star makes a pointer of the type behind it. -/
theorem typeExpr?_star : typeExpr? (fuel + 1) c (⟨.punct "*", o⟩ :: ts) =
    (typeExpr? fuel c ts).map fun (t, r) => (.pointer t, r) := by
  simp [typeExpr?]

/-- Two brackets make a slice of the type behind them. -/
theorem typeExpr?_slice : typeExpr? (fuel + 1) c (⟨.punct "[", o⟩ :: ⟨.punct "]", o'⟩ :: ts) =
    (typeExpr? fuel c ts).map fun (t, r) => (.slice t, r) := by
  simp [typeExpr?]

/-- A word that is no keyword is read as a name, qualified or with type arguments as the case may
be. -/
theorem typeExpr?_word (hw : keywordType? w = none) :
    typeExpr? (fuel + 1) c (⟨.word w, o⟩ :: ts) = some (namedType c w ts) := by
  simp [typeExpr?, hw]

/-- No type starts with a point. -/
theorem typeExpr?_point : typeExpr? fuel c (⟨.punct ".", o⟩ :: ts) = none := by
  cases fuel <;> simp [typeExpr?]

/-- An entry that starts with a name is read from behind that name. -/
theorem read?_word (hw : keywordType? w = none) (afterName : Bool) :
    ParamEntry.read? afterName (⟨.word w, o⟩ :: ts) = ParamEntry.ofName? w ts := by
  simp [ParamEntry.read?, hw]

/-- Line ends between import specifications are passed over. -/
theorem importSpecs?_newline : importSpecs? fuel (⟨.newline, o⟩ :: ts) = importSpecs? fuel ts := by
  cases fuel with
  | zero => rfl
  | succ fuel =>
    rw [importSpecs?, importSpecs?, expect?, expect?, importSpec?, importSpec?, skipLines_newline]

end Reading

/-- The tokens continue with what ends an entry of a parameter list. -/
def Closes (ts : List Token) : Prop :=
  ∃ o rest, ts = ⟨.punct ",", o⟩ :: rest ∨ ts = ⟨.punct ")", o⟩ :: rest

/-- What ends a parameter is a comma or a closing parenthesis and no other operator. -/
theorem Closes.expect? {ts : List Token} (h : Closes ts) {p : String} (hp : p ≠ "," ∧ p ≠ ")") :
    expect? p ts = none := by
  obtain ⟨o, rest, rfl | rfl⟩ := h
  · simp [hp.1.symm]
  · simp [hp.2.symm]

/-- What ends a parameter is the end of an entry. -/
theorem Closes.atEnd {ts : List Token} (h : Closes ts) : ParamEntry.atEnd ts = true := by
  obtain ⟨o, rest, rfl | rfl⟩ := h <;> simp [ParamEntry.atEnd, startsWith]

/-- Tokens whose first lexeme is known have a first token, at some byte; with this the tokens of a
printed part are taken apart one by one. -/
theorem Token.exists_of_map_lexeme {ts : List Token} {l : Lexeme} {ls : List Lexeme}
    (h : ts.map (·.lexeme) = l :: ls) : ∃ o us, ts = ⟨l, o⟩ :: us ∧ us.map (·.lexeme) = ls := by
  obtain ⟨⟨_, o⟩, us, rfl, rfl, hus⟩ := List.map_eq_cons_iff.1 h
  exact ⟨o, us, rfl, hus⟩

open Token (exists_of_map_lexeme)

-- The symbols are opened one level at a time: a `simp` with `symbolRests` would open all of them.
section Grammar

variable (depth o : Nat) (ts : List Token)

/-- A brace is no parameter list. -/
theorem symbolRests_params_brace :
    symbolRests Symbol.production (depth + 1) .params (⟨.punct "\x7b", o⟩ :: ts) = [] := by
  rw [symbolRests]
  simp [Symbol.production, Phrase.all, Phrase.rests, Symbol.punct, Symbol.isPunct, Phrase.distinct]

/-- A brace starts no type. -/
theorem symbolRests_simpleType_brace (c : Place) :
    symbolRests Symbol.production (depth + 1) (.simpleType c) (⟨.punct "\x7b", o⟩ :: ts) = [] := by
  rw [symbolRests]
  simp [Symbol.production, Phrase.all, Phrase.first, Phrase.rests, Symbol.punct, Symbol.keyword,
    Symbol.isPunct, Symbol.isThe, Symbol.isName, Phrase.distinct]

/-- A brace is no result. -/
theorem symbolRests_result_brace : symbolRests Symbol.production (depth + 2) (.result .line)
    (⟨.punct "\x7b", o⟩ :: ts) = [⟨.punct "\x7b", o⟩ :: ts] := by
  have hline : Place.line.lineEnds = true := rfl
  rw [symbolRests]
  simp [Symbol.production, Phrase.optional, Phrase.first, Phrase.rests, Symbol.adjacent, hline,
    Phrase.distinct, symbolRests_params_brace, symbolRests_simpleType_brace]

/-- There is no statement in front of a closing brace. -/
theorem symbolRests_statements_close : symbolRests Symbol.production (depth + 1) (.statements false)
    (⟨.punct "\x7d", o⟩ :: ts) = [⟨.punct "\x7d", o⟩ :: ts] := by
  rw [symbolRests]
  simp [Symbol.production, Phrase.first, Phrase.rests, Symbol.isCloser, Phrase.distinct]

/-- Two braces are a block. -/
theorem symbolRests_block_empty (o' : Nat) : symbolRests Symbol.production (depth + 2) .block
    (⟨.punct "\x7b", o⟩ :: ⟨.punct "\x7d", o'⟩ :: ts) = [ts] := by
  rw [symbolRests]
  simp [Symbol.production, Phrase.all, Phrase.rests, Symbol.punct, Symbol.isPunct, Phrase.distinct,
    symbolRests_statements_close]

/-- Behind a header an empty body is read without errors. -/
theorem afterHeader_empty {us : List Token}
    (hus : us.map (·.lexeme) = [.punct "\x7b", .punct "\x7d"]) :
    afterHeader (us ++ ts) = (true, ts) := by
  obtain ⟨o, vs, rfl, hvs⟩ := exists_of_map_lexeme hus
  obtain ⟨o', xs, rfl, hxs⟩ := exists_of_map_lexeme hvs
  obtain rfl := List.map_eq_nil_iff.1 hxs
  simp [afterHeader, Symbol.rests, symbolRests_result_brace, closeBrace?, symbolRests_block_empty]

end Grammar

namespace Printed

/-- The syntax of a type. -/
def Ty.expr : Ty → TypeExpr
  | name n => .name n.text
  | qualified q n => .qualified q.text n.text
  | pointer t => .pointer t.expr
  | array t => .slice t.expr

/-- The syntax tree of a printed type has the shape that the type is to have. -/
theorem Ty.shape_expr (t : Ty) : t.expr.shape = t.shape := by
  induction t with
  | name n => rfl
  | qualified q n => rfl
  | pointer t ih => exact congrArg Shape.pointer ih
  | array t ih => exact congrArg Shape.array ih

/-- A printed name is no keyword that starts a type. -/
theorem Ident.keywordType?_text (i : Ident) : keywordType? i.text = none := by
  have hreserved : i.text ∉ reserved := i.not_reserved
  unfold keywordType?
  split <;> simp_all [reserved]

/-- **A printed type is read back**, by induction on the type; each of its marks takes one unit of
fuel, and it has at least as many tokens as marks. -/
theorem typeExpr?_tokens (t : Ty) {ts more : List Token} (fuel : Nat)
    (hts : ts.map (·.lexeme) = t.lexemes) (hmore : Closes more) :
    typeExpr? (fuel + ts.length) .inner (ts ++ more) = some (t.expr, more) := by
  have hbracket : expect? "[" more = none := hmore.expect? (by decide)
  have hpoint : expect? "." more = none := hmore.expect? (by decide)
  induction t generalizing ts fuel with
  | name n =>
    obtain ⟨o, us, rfl, hus⟩ := exists_of_map_lexeme hts
    obtain rfl := List.map_eq_nil_iff.1 hus
    rw [List.length_cons, ← Nat.add_assoc, List.cons_append, typeExpr?_word n.keywordType?_text,
      List.nil_append, namedType_name hbracket hpoint]
    rfl
  | qualified q n =>
    obtain ⟨o, us, rfl, hus⟩ := exists_of_map_lexeme hts
    obtain ⟨o', vs, rfl, hvs⟩ := exists_of_map_lexeme hus
    obtain ⟨o'', xs, rfl, hxs⟩ := exists_of_map_lexeme hvs
    obtain rfl := List.map_eq_nil_iff.1 hxs
    rw [List.length_cons, ← Nat.add_assoc, List.cons_append, typeExpr?_word q.keywordType?_text]
    exact congrArg some (namedType_qualified hbracket)
  | pointer t ih =>
    obtain ⟨o, us, rfl, hus⟩ := exists_of_map_lexeme hts
    rw [List.length_cons, ← Nat.add_assoc, List.cons_append, typeExpr?_star, ih fuel hus]
    rfl
  | array t ih =>
    obtain ⟨o, us, rfl, hus⟩ := exists_of_map_lexeme hts
    obtain ⟨o', vs, rfl, hvs⟩ := exists_of_map_lexeme hus
    rw [List.length_cons, ← Nat.add_assoc, List.cons_append, List.cons_append, typeExpr?_slice,
      List.length_cons, ← Nat.add_assoc, Nat.add_right_comm, ih (fuel + 1) hvs]
    rfl

/-- The same with the fuel that the reader takes. -/
theorem innerType?_tokens (t : Ty) {ts more : List Token} (hts : ts.map (·.lexeme) = t.lexemes)
    (hmore : Closes more) : innerType? (ts ++ more) = some (t.expr, more) := by
  have hlength : (ts ++ more).length + 1 = more.length + 1 + ts.length := by
    rw [List.length_append]
    omega
  rw [innerType?, hlength, typeExpr?_tokens t _ hts hmore]

/-- The entry that is read from a printed one. -/
def Entry.read : Entry → ParamEntry
  | bare t => .bare t.expr
  | named n t => .named n.text t.expr

/-- A type starts with a word, a star or a bracket that opens. -/
theorem Ty.expect?_tokens (t : Ty) {ts : List Token} (hts : ts.map (·.lexeme) = t.lexemes)
    (more : List Token) {p : String} (hp : p ≠ "*" ∧ p ≠ "[") : expect? p (ts ++ more) = none := by
  cases t with
  | name n | qualified q n =>
    obtain ⟨o, us, rfl, hus⟩ := exists_of_map_lexeme hts
    simp
  | pointer t =>
    obtain ⟨o, us, rfl, hus⟩ := exists_of_map_lexeme hts
    simp [hp.1.symm]
  | array t =>
    obtain ⟨o, us, rfl, hus⟩ := exists_of_map_lexeme hts
    simp [hp.2.symm]

/-- Of the operators only a star or a bracket can start an entry. -/
theorem Entry.expect?_tokens (e : Entry) {ts : List Token} (hts : ts.map (·.lexeme) = e.lexemes)
    (more : List Token) {p : String} (hp : p ≠ "*" ∧ p ≠ "[") : expect? p (ts ++ more) = none := by
  cases e with
  | bare t => exact t.expect?_tokens hts more hp
  | named n t =>
    obtain ⟨o, us, rfl, hus⟩ := exists_of_map_lexeme hts
    simp

/-- A printed entry is read back in front of everything that ends a parameter. -/
theorem read?_tokens (e : Entry) {ts more : List Token} (afterName : Bool)
    (hts : ts.map (·.lexeme) = e.lexemes) (hmore : Closes more) :
    ParamEntry.read? afterName (ts ++ more) = some (e.read, more) := by
  cases e with
  | bare t =>
    have hinner := innerType?_tokens t hts hmore
    cases t with
    | name n =>
      obtain ⟨o, us, rfl, hus⟩ := exists_of_map_lexeme hts
      obtain rfl := List.map_eq_nil_iff.1 hus
      have hdots : expect? "..." more = none := hmore.expect? (by decide)
      rw [List.cons_append, read?_word n.keywordType?_text, ParamEntry.ofName?, List.nil_append,
        hdots]
      simp [hmore.atEnd, Entry.read, Ty.expr]
    | qualified q n =>
      obtain ⟨o, us, rfl, hus⟩ := exists_of_map_lexeme hts
      obtain ⟨o', vs, rfl, hvs⟩ := exists_of_map_lexeme hus
      obtain ⟨o'', xs, rfl, hxs⟩ := exists_of_map_lexeme hvs
      obtain rfl := List.map_eq_nil_iff.1 hxs
      have hbracket : expect? "[" more = none := hmore.expect? (by decide)
      -- the point behind the first word starts no type, so that word is no name
      rw [List.cons_append, read?_word q.keywordType?_text]
      simp [ParamEntry.ofName?, ParamEntry.atEnd, startsWith, ParamEntry.ofNamed?, innerType?,
        typeExpr?_point, namedType_qualified hbracket, Entry.read, Ty.expr]
    | pointer t | array t =>
      obtain ⟨o, us, rfl, hus⟩ := exists_of_map_lexeme hts
      rw [List.cons_append] at hinner ⊢
      simp [ParamEntry.read?, hinner, Entry.read]
  | named n t =>
    obtain ⟨o, us, rfl, hus⟩ := exists_of_map_lexeme hts
    have hinner := innerType?_tokens t hus hmore
    have hdots : expect? "..." (us ++ more) = none := t.expect?_tokens hus more (by decide)
    have hstart : ParamEntry.atEnd (us ++ more) = false := by
      simp [ParamEntry.atEnd, startsWith, t.expect?_tokens hus more]
    rw [List.cons_append, read?_word n.keywordType?_text, ParamEntry.ofName?, hdots]
    simp [hstart, ParamEntry.ofNamed?, hinner, hmore.atEnd, Entry.read]

/-- Entries are separated by commas. -/
theorem Entry.listLexemes_cons_cons (e e' : Entry) (es : List Entry) :
    listLexemes (e :: e' :: es) = e.lexemes ++ .punct "," :: listLexemes (e' :: es) := by
  simp [listLexemes]

/-- The entries of a printed list are read back in order, up to the closing parenthesis. -/
theorem paramEntries?_tokens (es : List Entry) {ts : List Token} (fuel o : Nat) (afterName : Bool)
    (hts : ts.map (·.lexeme) = Entry.listLexemes es) (more : List Token) :
    paramEntries? (fuel + ts.length + 1) afterName (ts ++ ⟨.punct ")", o⟩ :: more) =
      some (es.map Entry.read, true, more) := by
  induction es generalizing ts fuel afterName with
  | nil =>
    obtain rfl := List.map_eq_nil_iff.1 hts
    simp [paramEntries?]
  | cons e es ih =>
    cases es with
    | nil =>
      have hts : ts.map (·.lexeme) = e.lexemes := by simpa [Entry.listLexemes] using hts
      have hcloses : Closes (⟨.punct ")", o⟩ :: more) := ⟨o, more, .inr rfl⟩
      have hmore : expect? ")" (ts ++ ⟨.punct ")", o⟩ :: more) = none :=
        e.expect?_tokens hts _ (by decide)
      have hread := read?_tokens e afterName hts hcloses
      simp [paramEntries?, hmore, hread, hcloses.atEnd, paramEntries?.follow]
    | cons e' es =>
      rw [Entry.listLexemes_cons_cons] at hts
      obtain ⟨us, vs, rfl, hus, hvs⟩ := List.map_eq_append_iff.1 hts
      obtain ⟨o', xs, rfl, hxs⟩ := exists_of_map_lexeme hvs
      have hlength : fuel + (us ++ ⟨.punct ",", o'⟩ :: xs).length + 1 =
          fuel + us.length + xs.length + 1 + 1 := by
        rw [List.length_append, List.length_cons]
        omega
      have hcloses : Closes (⟨.punct ",", o'⟩ :: (xs ++ ⟨.punct ")", o⟩ :: more)) :=
        ⟨o', _, .inl rfl⟩
      have hmore : expect? ")" (us ++ ⟨.punct ",", o'⟩ :: (xs ++ ⟨.punct ")", o⟩ :: more)) = none :=
        e.expect?_tokens hus _ (by decide)
      have hread := read?_tokens e afterName hus hcloses
      have hrest := ih (fuel + us.length) e.read.isBareName hxs
      rw [hlength, List.append_assoc, List.cons_append]
      simp [paramEntries?, hmore, hread, hcloses.atEnd, paramEntries?.follow, hrest]

/-- No list of entries starts with a comma. -/
theorem expect?_comma (es : List Entry) {ts : List Token}
    (hts : ts.map (·.lexeme) = Entry.listLexemes es) (o : Nat) (more : List Token) :
    expect? "," (ts ++ ⟨.punct ")", o⟩ :: more) = none := by
  rcases es with _ | ⟨e, _ | ⟨e', es⟩⟩
  · obtain rfl := List.map_eq_nil_iff.1 hts
    simp
  · have hts : ts.map (·.lexeme) = e.lexemes := by simpa [Entry.listLexemes] using hts
    exact e.expect?_tokens hts _ (by decide)
  · rw [Entry.listLexemes_cons_cons] at hts
    obtain ⟨us, vs, rfl, hus, -⟩ := List.map_eq_append_iff.1 hts
    rw [List.append_assoc]
    exact e.expect?_tokens hus _ (by decide)

/-- A printed list in parentheses is read back as the groups of its entries, and nothing in front of
it is taken for type parameters. -/
theorem paramList?_tokens (es : List Entry) {ts : List Token} {ls : List Lexeme}
    (hts : ts.map (·.lexeme) = .punct "(" :: Entry.listLexemes es ++ .punct ")" :: ls)
    (more : List Token) :
    ∃ us, us.map (·.lexeme) = ls ∧ afterTypeParams? (ts ++ more) = some (ts ++ more) ∧
      paramList? (ts ++ more) =
        some (ParamEntry.group [] (es.map Entry.read), true, us ++ more) := by
  obtain ⟨o, vs, rfl, hvs⟩ := exists_of_map_lexeme hts
  obtain ⟨xs, ys, rfl, hxs, hys⟩ := List.map_eq_append_iff.1 hvs
  obtain ⟨o', us, rfl, hus⟩ := exists_of_map_lexeme hys
  have hlength : (xs ++ ⟨.punct ")", o'⟩ :: (us ++ more)).length + 1 =
      (us ++ more).length + 1 + xs.length + 1 := by
    rw [List.length_append, List.length_cons]
    omega
  have hcomma := expect?_comma es hxs o' (us ++ more)
  have hentries := paramEntries?_tokens es ((us ++ more).length + 1) o' false hxs (us ++ more)
  refine ⟨us, hus, by simp [afterTypeParams?, startsWith], ?_⟩
  rw [List.cons_append, List.append_assoc, List.cons_append]
  simp only [paramList?, expect?_punct, if_true, hcomma, hlength, hentries, Option.map_some]

/-- Names alone are held back until a type is found for them. -/
theorem group_names (pending : List String) (ns : List Ident) (es : List ParamEntry) :
    ParamEntry.group pending ((ns.map fun n => .bare (.name n.text)) ++ es) =
      ParamEntry.group (pending ++ ns.map Ident.text) es := by
  induction ns generalizing pending with
  | nil => simp
  | cons n ns ih => simp [ParamEntry.group, ih]

/-- The entries of a group give what is kept of the group: the last names share the type, and the
names in front of them come back as unnamed types. -/
theorem toGroup_group_entries (g : Group) (es : List ParamEntry) :
    (ParamEntry.group [] (g.entries.map Entry.read ++ es)).map Param.toGroup =
      g.kept ++ (ParamEntry.group [] es).map Param.toGroup := by
  have hentries : g.entries.map Entry.read ++ es =
      (g.init.map fun n => .bare (.name n.text)) ++ .named g.last.text g.type.expr :: es := by
    simp [Group.entries, Entry.read, Ty.expr]
  have hlength : g.names.length - 9 = g.init.length - ParamEntry.maxShared := by
    simp [Group.names, ParamEntry.maxShared]
  have hle : g.init.length - ParamEntry.maxShared ≤ g.init.length := Nat.sub_le _ _
  rw [hentries, group_names, Group.kept, hlength, Group.names, List.take_append_of_le_length hle,
    List.drop_append_of_le_length hle]
  simp [ParamEntry.group, Param.toGroup, TypeExpr.shape, g.type.shape_expr, Function.comp_def]

/-- Without a named entry in the list, all entries are types. -/
theorem group_types (pending : List String) (ts : List Ty) :
    ParamEntry.group pending (ts.map fun t => .bare t.expr) =
      (pending.map fun n => { type := .name n }) ++ ts.map fun t => { type := t.expr } := by
  induction ts generalizing pending with
  | nil => simp [ParamEntry.group]
  | cons t ts ih => cases t <;> simp [ParamEntry.group, Ty.expr, ih]

/-- Joining names with the types behind them gives the groups of a printed list, with nine names at
most for each type. -/
theorem toGroup_group (p : Params) :
    (ParamEntry.group [] (p.entries.map Entry.read)).map Param.toGroup = p.kept := by
  cases p with
  | named gs =>
    induction gs with
    | nil => rfl
    | cons g gs ih =>
      simp only [Params.entries, Params.kept, List.flatMap_cons, List.map_append] at ih ⊢
      rw [toGroup_group_entries, ih]
  | unnamed ts =>
    have hread : (Params.unnamed ts).entries.map Entry.read = ts.map fun t => .bare t.expr := by
      simp [Params.entries, Entry.read]
    rw [hread, group_types]
    simp [Params.kept, Param.toGroup, Ty.shape_expr]

/-- The receiver list that is read. -/
def Func.receiverParams : Option Receiver → List Param
  | some r => [{ names := [r.name.text], type := r.toGroup.type.expr }]
  | none => []

/-- The receiver of a printed declaration is named by its type, with or without a star. -/
theorem receiverOf_receiverParams (r : Option Receiver) :
    receiverOf (Func.receiverParams r) = (r.map fun r => r.type.text).getD "" := by
  rcases r with _ | ⟨name, isPointer, type⟩
  · rfl
  · cases isPointer <;> rfl

/-- A receiver is a list of one named entry. -/
theorem Receiver.group_entry (r : Receiver) :
    ParamEntry.group [] [r.entry.read] = Func.receiverParams (some r) :=
  rfl

/-- The header of a printed declaration is read back: its name, its receiver and its parameters,
with the body left over. -/
theorem funcHeader?_tokens (d : Func) {ts : List Token} (hts : ts.map (·.lexeme) = d.lexemes)
    (more : List Token) :
    ∃ us, us.map (·.lexeme) = [.punct "\x7b", .punct "\x7d"] ∧
      funcHeader? (ts ++ more) = some (d.name.text, Func.receiverParams d.receiver,
        ParamEntry.group [] (d.params.entries.map Entry.read), true, us ++ more) := by
  obtain ⟨name, receiver, params⟩ := d
  cases receiver with
  | none =>
    obtain ⟨o, vs, rfl, hvs⟩ := exists_of_map_lexeme hts
    obtain ⟨us, hus, htypes, hparams⟩ := paramList?_tokens params.entries hvs more
    refine ⟨us, hus, ?_⟩
    simp [funcHeader?, htypes, hparams, Func.receiverParams]
  | some r =>
    have hlexemes : ts.map (·.lexeme) = .punct "(" :: Entry.listLexemes [r.entry] ++ .punct ")" ::
        (.word name.text :: .punct "(" :: Entry.listLexemes params.entries ++
          [.punct ")", .punct "\x7b", .punct "\x7d"]) := by
      simpa [Func.lexemes, Func.receiverLexemes, Receiver.lexemes, Entry.listLexemes] using hts
    obtain ⟨vs, hvs, -, hreceiver⟩ := paramList?_tokens [r.entry] hlexemes more
    obtain ⟨o, xs, rfl, hxs⟩ := exists_of_map_lexeme hvs
    obtain ⟨us, hus, -, hparams⟩ := paramList?_tokens params.entries hxs more
    obtain ⟨o', ys, rfl, hys⟩ := exists_of_map_lexeme hlexemes
    refine ⟨us, hus, ?_⟩
    rw [List.cons_append] at hreceiver ⊢
    simp [funcHeader?, hreceiver, hparams, r.group_entry]

/-- The item of a declaration at byte `offset`. -/
def Func.item (d : Func) (offset : Nat) : Item :=
  .declared d.name.text (receiverParams d.receiver)
    (ParamEntry.group [] (d.params.entries.map Entry.read)) offset

/-- **A printed declaration is read back** as one item at the byte of its keyword. -/
theorem readItem_func (d : Func) {ts : List Token} (hts : ts.map (·.lexeme) = d.lexemes)
    (offset : Nat) (more : List Token) :
    readItem ⟨.word "func", offset⟩ (ts ++ more) = { items := [d.item offset], rest := more } := by
  obtain ⟨us, hus, hheader⟩ := funcHeader?_tokens d hts more
  have hbody := afterHeader_empty more hus
  simp [readItem, funcDecl?, hheader, hbody, Func.item]

/-- The item of an import. -/
def Import.item (i : Import) : Item :=
  .imported (.ofList i.path.quoted) (i.name.map ImportName.text)

/-- A printed import is read back, and its line end is left over. -/
theorem importSpec?_tokens (i : Import) {ts : List Token} (hts : ts.map (·.lexeme) = i.lexemes)
    (more : List Token) :
    ∃ k, expect? ")" (ts ++ more) = none ∧
      importSpec? (ts ++ more) = some (i.item, ⟨.newline, k⟩ :: more) := by
  obtain ⟨us, vs, rfl, hus, hvs⟩ := List.map_eq_append_iff.1 hts
  obtain ⟨o, xs, rfl, hxs⟩ := exists_of_map_lexeme hvs
  obtain ⟨k, ys, rfl, hys⟩ := exists_of_map_lexeme hxs
  obtain rfl := List.map_eq_nil_iff.1 hys
  obtain ⟨path, name⟩ := i
  refine ⟨k, ?_⟩
  rcases name with _ | n | _ | _
  · obtain rfl := List.map_eq_nil_iff.1 hus
    exact ⟨rfl, rfl⟩
  all_goals
    obtain ⟨o', zs, rfl, hzs⟩ := exists_of_map_lexeme hus
    obtain rfl := List.map_eq_nil_iff.1 hzs
    exact ⟨rfl, rfl⟩

/-- The imports of a printed block are read back in order, up to the closing parenthesis. -/
theorem importSpecs?_tokens (is : List Import) {ts : List Token} (fuel o : Nat)
    (hts : ts.map (·.lexeme) = is.flatMap Import.lexemes) (more : List Token) :
    importSpecs? (fuel + ts.length + 1) (ts ++ ⟨.punct ")", o⟩ :: more) =
      some (is.map Import.item, more) := by
  induction is generalizing ts fuel with
  | nil =>
    obtain rfl := List.map_eq_nil_iff.1 hts
    simp [importSpecs?]
  | cons i is ih =>
    obtain ⟨us, vs, rfl, hus, hvs⟩ := List.map_eq_append_iff.1 hts
    have hne : us ≠ [] := by
      rintro rfl
      simp [Import.lexemes] at hus
    have hlength : fuel + (us ++ vs).length = fuel + (us.length - 1) + vs.length + 1 := by
      have := List.length_pos_iff.2 hne
      rw [List.length_append]
      omega
    obtain ⟨k, hclose, hspec⟩ := importSpec?_tokens i hus (vs ++ ⟨.punct ")", o⟩ :: more)
    have hrest := ih (fuel + (us.length - 1)) hvs
    rw [List.append_assoc, importSpecs?, hclose, hspec, hlength]
    simp [Symbol.isTerminator, hrest]

end Printed
end Go
end RequiredArgs
